import RowQuery.Operator

/-!
# Operator precedence

Reading expressions with a stack of what is still open: groups, argument lists, and operators that wait
for their last operand, the innermost first. An operator that binds no tighter than one on the stack
completes that one first (`reduce`), so that operators of one level group to the left; one that does not
chain is refused behind an operator of its own level (`await?`).
-/

namespace RowQuery

/-- Something that was opened and is not yet complete, where `E` are expressions and `B` binary
operators. -/
inductive Frame (E B : Type) where
  | group
  /-- A call with the arguments read so far. -/
  | call (name : String) (args : List E)
  | unary (op : UnaryOp)
  | binary (op : B) (left : E)

/-- How the operators of a language bind, and the expressions they build. -/
structure Precedence (E B : Type) where
  unary : UnaryOp → E → E
  binary : B → E → E → E
  level : B → Nat
  /-- Whether operators of one level may follow one another. -/
  chains : B → Bool

namespace Precedence

variable {E B : Type}

/-- Completes the operators on top of the stack that bind at `level` or tighter, with `e` as the last
operand. Unary operators bind tighter than all binary ones. -/
def reduce (p : Precedence E B) (level : Nat) :
    List (Frame E B) → E → List (Frame E B) × E
  | .unary op :: stack, e => p.reduce level stack (p.unary op e)
  | .binary op left :: stack, e =>
    if level ≤ p.level op then p.reduce level stack (p.binary op left e)
    else (.binary op left :: stack, e)
  | stack, e => (stack, e)

/-- Opens the operator `op` behind the operand `e`, if it may stand there. -/
def await? (p : Precedence E B) (op : B) (stack : List (Frame E B)) (e : E) :
    Option (List (Frame E B)) :=
  let level := p.level op
  if p.chains op then
    let (stack, left) := p.reduce level stack e
    some (.binary op left :: stack)
  else
    match p.reduce (level + 1) stack e with
    | (.binary top operand :: stack, left) =>
      if p.level top = level then none
      else some (.binary op left :: .binary top operand :: stack)
    | (stack, left) => some (.binary op left :: stack)

end Precedence

end RowQuery
