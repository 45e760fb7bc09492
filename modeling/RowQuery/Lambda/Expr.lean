import RowQuery.Operator

/-!
# Guest expressions
-/

namespace RowQuery.Lambda

/-- Body of a lambda. -/
inductive Expr where
  | float (x : Float)
  | int (n : Int64)
  | str (s : String)
  | bool (b : Bool)
  | null
  /-- A name that the lambda binds. -/
  | param (name : String)
  /-- A name that the lambda does not bind. -/
  | ident (name : String)
  | property (object : Expr) (name : String)
  | call (name : String) (args : List Expr)
  | unary (op : UnaryOp) (operand : Expr)
  | binary (op : BinaryOp) (left right : Expr)
  deriving Inhabited

end RowQuery.Lambda
