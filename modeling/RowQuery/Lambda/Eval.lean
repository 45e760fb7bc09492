import RowQuery.Builtin.Registry
import RowQuery.Eval.Operation
import RowQuery.Lambda.Function

/-!
# Evaluation of lambdas
-/

namespace RowQuery

namespace Lambda

/-- Values of the parameters. -/
abbrev Env := List (String × Value)

mutual

/-- Value of an expression. A connective looks at its right operand only if the left one leaves the answer
open. -/
def Expr.eval (env : Env) : Expr → Eval Value
  | .float x => .ok (.float x)
  | .int n => .ok (.int n)
  | .str s => .ok (.str s)
  | .bool b => .ok (.bool b)
  | .null => .ok .null
  | .param name =>
    match env.lookup name with
    | some v => .ok v
    | none => Run.fail (.undefinedName name)
  | .ident name => Run.fail (.undefinedName name)
  | .property object name => do (← object.eval env).property name
  | .call name args => do Run.lift (Builtin.call name (← Expr.evalAll env args))
  | .unary op operand => do op.apply (← operand.eval env)
  | .binary (.connective op) left right => do
    match op.decided? (← left.eval env).truthy with
    | some b => return .bool b
    | none => return .bool (← right.eval env).truthy
  | .binary op left right => do
    let a ← left.eval env
    let b ← right.eval env
    op.apply a b

/-- Values of arguments, from the left. -/
def Expr.evalAll (env : Env) : List Expr → Eval (List Value)
  | [] => .ok []
  | e :: rest => do
    let v ← e.eval env
    let vs ← Expr.evalAll env rest
    return v :: vs

end

/-- Applies a lambda to one value per parameter. -/
def apply (f : Lambda) (args : List Value) : Eval Value :=
  if f.params.length = args.length then f.body.eval (f.params.zip args)
  else Run.fail (.argumentCount f.params.length args.length)

/-- Applies a lambda to one value. -/
def call (f : Lambda) (v : Value) : Eval Value :=
  f.apply [v]

/-- Whether a value meets the condition that a lambda states. -/
def test (f : Lambda) (v : Value) : Eval Bool := do
  return (← f.call v).truthy

end Lambda

end RowQuery
