import RowQuery.Failure
import RowQuery.Operator
import RowQuery.Value.Basic

/-!
# Errors of evaluation
-/

namespace RowQuery

/-- An operation on values of the wrong kind. The kinds are named as `Value.typeName` does. -/
inductive TypeFault where
  | negate (kind : String)
  | readProperty (name kind : String)
  | arithmetic (op : Arithmetic) (left right : String)
  /-- A function needs `wanted`. -/
  | argument (function wanted kind : String)
  | sum (kind : String)
  deriving DecidableEq, Repr, Inhabited

def TypeFault.message : TypeFault → String
  | negate kind => "Cannot negate " ++ kind
  | readProperty name kind => "Cannot read property '" ++ name ++ "' of " ++ kind
  | arithmetic op left right =>
    "Cannot apply " ++ op.symbol ++ " to " ++ left ++ " and " ++ right
  | argument function wanted kind =>
    function ++ "() requires " ++ wanted ++ ", got " ++ kind
  | sum kind => "Cannot sum " ++ kind

/-- How many arguments a function takes. -/
inductive Arity where
  | exactly (n : Nat)
  | between (least greatest : Nat)
  | atLeast (n : Nat)
  deriving DecidableEq, Repr, Inhabited

def Arity.message : Arity → String
  | exactly n => n.repr
  | between least greatest => least.repr ++ " to " ++ greatest.repr
  | atLeast n => "at least " ++ n.repr

inductive EvalError where
  | typeFault (fault : TypeFault)
  /-- A name that no parameter binds. -/
  | undefinedName (name : String)
  | unknownFunction (name : String)
  | arity (function : String) (expected : Arity) (got : Nat)
  /-- A lambda applied to the wrong number of values. -/
  | argumentCount (expected got : Nat)
  | invalidRegex (reason : String)
  | divisionByZero
  deriving DecidableEq, Repr, Inhabited

def EvalError.message : EvalError → String
  | typeFault fault => "Type error: " ++ fault.message
  | undefinedName name => "Undefined name: '" ++ name ++ "' is not a bound parameter"
  | unknownFunction name => "Unknown function: " ++ name ++ "()"
  | arity function expected got =>
    function ++ "() expects " ++ expected.message ++ " argument(s), got " ++ got.repr
  | argumentCount expected got =>
    "expression binds " ++ expected.repr ++ " parameter(s), applied to " ++ got.repr ++
      " value(s)"
  | invalidRegex reason => "invalid regex: " ++ reason
  | divisionByZero => "Division by zero"

/-- Outcome of evaluation. -/
abbrev Eval (α : Type) := Run EvalError α

end RowQuery
