/-!
# Operators

The operators that guest expressions and filters share.
-/

namespace RowQuery

inductive Comparison where
  | equal
  | strictEqual
  | notEqual
  | strictNotEqual
  | less
  | greater
  | lessEqual
  | greaterEqual
  deriving DecidableEq, Repr, Inhabited

inductive Arithmetic where
  | add
  | subtract
  | multiply
  | divide
  | modulo
  deriving DecidableEq, Repr, Inhabited

inductive Connective where
  | and
  | or
  deriving DecidableEq, Repr, Inhabited

/-- A binary operator. -/
inductive BinaryOp where
  | comparison (op : Comparison)
  | arithmetic (op : Arithmetic)
  | connective (op : Connective)
  deriving DecidableEq, Repr, Inhabited

inductive UnaryOp where
  | not
  | negate
  deriving DecidableEq, Repr, Inhabited

/-- The answer of a connective whose left operand leaves no choice. -/
def Connective.decided? (op : Connective) (left : Bool) : Option Bool :=
  match op, left with
  | and, false => some false
  | or, true => some true
  | _, _ => none

/-- Written sign of an arithmetic operator. -/
def Arithmetic.symbol : Arithmetic → String
  | add => "+"
  | subtract => "-"
  | multiply => "*"
  | divide => "/"
  | modulo => "%"

/-- Binding strength of a binary operator: an operator binds its operands tighter than every operator
of a lower level. -/
def BinaryOp.level : BinaryOp → Nat
  | connective .or => 1
  | connective .and => 2
  | comparison _ => 3
  | arithmetic .add | arithmetic .subtract => 4
  | arithmetic .multiply | arithmetic .divide | arithmetic .modulo => 5

/-- Whether operators of one level may follow one another: comparisons may not. -/
def BinaryOp.chains : BinaryOp → Bool
  | comparison _ => false
  | _ => true

end RowQuery
