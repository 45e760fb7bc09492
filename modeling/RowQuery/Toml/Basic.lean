/-!
# Values of settings files

The values that a TOML text can hold. A date or time keeps its text.
-/

namespace RowQuery

inductive Toml where
  | str (s : String)
  | int (n : Int)
  | float (x : Float)
  | bool (b : Bool)
  | datetime (text : String)
  | array (items : List Toml)
  | table (members : List (String × Toml))
  deriving Inhabited

end RowQuery
