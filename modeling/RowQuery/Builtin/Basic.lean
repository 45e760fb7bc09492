import RowQuery.Eval.Error

/-!
# Functions that expressions call

A function's `Body` says how many arguments it takes. Its own code gets the name it was called by, which
error messages show.
-/

namespace RowQuery.Builtin

/-- Outcome of a function. -/
abbrev Result := Except EvalError Value

inductive Body where
  | one (f : String → Value → Result)
  | oneOrTwo (f : String → Value → Option Value → Result)
  | two (f : String → Value → Value → Result)
  | twoOrThree (f : String → Value → Value → Option Value → Result)
  | oneOrMore (f : String → List Value → Result)
  | anyNumber (f : String → List Value → Result)

namespace Body

def arity : Body → Arity
  | one _ => .exactly 1
  | oneOrTwo _ => .between 1 2
  | two _ => .exactly 2
  | twoOrThree _ => .between 2 3
  | oneOrMore _ => .atLeast 1
  | anyNumber _ => .atLeast 0

/-- Calls a function by `name`. -/
def call (body : Body) (name : String) (args : List Value) : Result :=
  match body, args with
  | one f, [a] => f name a
  | oneOrTwo f, [a] => f name a none
  | oneOrTwo f, [a, b] => f name a (some b)
  | two f, [a, b] => f name a b
  | twoOrThree f, [a, b] => f name a b none
  | twoOrThree f, [a, b, c] => f name a b (some c)
  | oneOrMore f, a :: rest => f name (a :: rest)
  | anyNumber f, args => f name args
  | body, args => .error (.arity name body.arity args.length)

end Body

/-- The float of a numeric argument. -/
def number (name : String) (v : Value) : Except EvalError Float :=
  match v.asFloat? with
  | some x => .ok x
  | none => .error (.typeFault (.argument name "a number" v.typeName))

/-- The text of a string argument. -/
def text (name : String) (v : Value) : Except EvalError String :=
  match v with
  | .str s => .ok s
  | v => .error (.typeFault (.argument name "a string" v.typeName))

/-- A function on one string. -/
def onText (f : String → Value) : Body :=
  .one fun name v => (text name v).map f

/-- A test of one value. -/
def test (p : Value → Bool) : Body :=
  .one fun _ v => .ok (.bool (p v))

end RowQuery.Builtin
