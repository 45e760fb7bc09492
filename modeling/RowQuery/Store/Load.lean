import RowQuery.Json.Basic
import RowQuery.Store.Memory

/-!
# Stores from JSON

An array is the one table of its store; an object has a table under each name.
-/

namespace RowQuery.MemoryStore

/-- Tables of the members of an object; each has to be an array. -/
def tablesOf : List (String × Json) → Except StoreError (Fields (List Value))
  | [] => .ok []
  | (name, .array rows) :: rest => do
    return (name, rows.map Value.ofJson) :: (← tablesOf rest)
  | (name, _) :: _ =>
    .error (.backend ("table '" ++ name ++ "' must be an array of records"))

/-- A store for a JSON value; an array becomes the table `default`. -/
def ofJson (j : Json) (default : String) : Except StoreError MemoryStore :=
  match j with
  | .array rows => .ok ⟨[(default, rows.map Value.ofJson)], []⟩
  | .object members => do return ⟨← tablesOf members, []⟩
  | _ => .error (.backend "expected an array of records or an object of tables")

end RowQuery.MemoryStore
