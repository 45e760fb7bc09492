import RowQuery.Builtin.Registry
import RowQuery.Eval.Operation
import RowQuery.Filter.Expr

/-!
# Evaluation of filters

A filter gives a record the value that the expression with the same operators gives it, except that a
property of anything but an object reads as null.
-/

namespace RowQuery.Filter

mutual

/-- Value of a filter for one record. A connective looks at its right operand only if the left one leaves
the answer open. -/
def Expr.eval (record : Value) : Expr → Eval Value
  | .literal v => .ok v
  | .property name => .ok ((record.get? name).getD .null)
  | .call name args => do Run.lift (Builtin.call name (← Expr.evalAll record args))
  | .unary op operand => do op.apply (← operand.eval record)
  | .binary (.connective op) left right => do
    match op.decided? (← left.eval record).truthy with
    | some b => return .bool b
    | none => return .bool (← right.eval record).truthy
  | .binary op left right => do
    let a ← left.eval record
    let b ← right.eval record
    op.general.apply a b

/-- Values of arguments, from the left. -/
def Expr.evalAll (record : Value) : List Expr → Eval (List Value)
  | [] => .ok []
  | e :: rest => do
    let v ← e.eval record
    let vs ← Expr.evalAll record rest
    return v :: vs

end

/-- Whether a record passes a filter. -/
def Expr.accepts (e : Expr) (record : Value) : Eval Bool := do
  return (← e.eval record).truthy

end RowQuery.Filter
