import Mathlib
import RowQuery.Precedence

/-!
# Operator precedence under a change of language

`reduce` and `await?` take nothing but operators off the stack (`reduce_operators`), so that groups and
calls stay open. A `Morphism` renames the operators of one language into another in which they bind
alike; completing operators commutes with it (`reduce_map`, `await_map`).
-/

namespace RowQuery

/-- Whether a frame is an operator that waits for its last operand. -/
def Frame.isOperator {E B : Type} : Frame E B → Bool
  | .unary _ | .binary _ _ => true
  | _ => false

namespace Precedence

variable {E F B C : Type} {p : Precedence E B} {q : Precedence F C}

/-! ## What stays open -/

/-- Nothing but a group or a call is left on top of the stack when every operator is completed. -/
theorem reduce_zero_cases (p : Precedence E B) (stack : List (Frame E B)) (e : E) :
    (∃ stack' r, p.reduce 0 stack e = (.group :: stack', r)) ∨
      (∃ name args stack' r, p.reduce 0 stack e = (.call name args :: stack', r)) ∨
      ∃ r, p.reduce 0 stack e = ([], r) := by
  fun_induction p.reduce 0 stack e with
  | case1 _ _ _ ih => exact ih
  | case2 _ _ _ _ _ ih => exact ih
  | case3 op left stack e h => exact absurd (Nat.zero_le _) h
  | case4 stack e hunary hbinary =>
    cases stack with
    | nil => exact .inr (.inr ⟨e, rfl⟩)
    | cons frame stack =>
      cases frame with
      | group => exact .inl ⟨stack, e, rfl⟩
      | call name args => exact .inr (.inl ⟨name, args, stack, e, rfl⟩)
      | unary op => exact absurd rfl (hunary op stack)
      | binary op left => exact absurd rfl (hbinary op left stack)

/-- The frames that `reduce` takes off are operators. -/
theorem reduce_operators (level : Nat) (stack : List (Frame E B)) (e : E) :
    ∃ operators, stack = operators ++ (p.reduce level stack e).1 ∧
      ∀ frame ∈ operators, frame.isOperator = true := by
  fun_induction p.reduce level stack e with
  | case1 op stack e ih =>
    obtain ⟨operators, hstack, hall⟩ := ih
    exact ⟨.unary op :: operators, congrArg _ hstack, by simpa [Frame.isOperator] using hall⟩
  | case2 op left stack e _ ih =>
    obtain ⟨operators, hstack, hall⟩ := ih
    exact ⟨.binary op left :: operators, congrArg _ hstack, by simpa [Frame.isOperator] using hall⟩
  | case3 => exact ⟨[], rfl, by simp⟩
  | case4 => exact ⟨[], rfl, by simp⟩

/-- An operator is opened on top of what `reduce` leaves. -/
theorem await_eq_some {op : B} {stack stack' : List (Frame E B)} {e : E}
    (h : p.await? op stack e = some stack') :
    ∃ level, stack' = .binary op (p.reduce level stack e).2 :: (p.reduce level stack e).1 := by
  simp only [await?] at h
  split at h
  next => exact ⟨p.level op, (Option.some.inj h).symm⟩
  next =>
    refine ⟨p.level op + 1, ?_⟩
    split at h
    next top operand stack left hr =>
      split at h
      next => cases h
      next => rw [hr]; exact (Option.some.inj h).symm
    next stack left _ hr => rw [hr]; exact (Option.some.inj h).symm

/-! ## Properties of what is read -/

section Holds

variable {P : E → Prop} {Q : Frame E B → Prop} (hunary : ∀ o e, P e → P (p.unary o e))
  (hbinary : ∀ o a b, P a → P b → P (p.binary o a b)) (hframe : ∀ o a, Q (.binary o a) ↔ P a)

include hunary hbinary hframe

/-- What operators keep holds of everything that `reduce` leaves. -/
theorem reduce_holds (level : Nat) {stack : List (Frame E B)} {e : E}
    (hstack : ∀ frame ∈ stack, Q frame) (he : P e) :
    (∀ frame ∈ (p.reduce level stack e).1, Q frame) ∧ P (p.reduce level stack e).2 := by
  fun_induction p.reduce level stack e with
  | case1 op stack e ih =>
    exact ih (fun frame h => hstack frame (List.mem_cons_of_mem _ h)) (hunary op e he)
  | case2 op left stack e _ ih =>
    exact ih (fun frame h => hstack frame (List.mem_cons_of_mem _ h))
      (hbinary op left e ((hframe op left).mp (hstack _ List.mem_cons_self)) he)
  | case3 => exact ⟨hstack, he⟩
  | case4 => exact ⟨hstack, he⟩

theorem await_holds {op : B} {stack stack' : List (Frame E B)} {e : E}
    (h : p.await? op stack e = some stack') (hstack : ∀ frame ∈ stack, Q frame) (he : P e) :
    ∀ frame ∈ stack', Q frame := by
  obtain ⟨level, rfl⟩ := await_eq_some h
  obtain ⟨hrest, hleft⟩ := reduce_holds hunary hbinary hframe level hstack he
  intro frame hmem
  rcases List.mem_cons.mp hmem with rfl | hmem
  · exact (hframe _ _).mpr hleft
  · exact hrest frame hmem

end Holds

/-! ## Renaming operators -/

/-- A change of language under which operators bind alike. -/
structure Morphism (p : Precedence E B) (q : Precedence F C) where
  expr : E → F
  op : B → C
  unary : ∀ o e, expr (p.unary o e) = q.unary o (expr e)
  binary : ∀ o a b, expr (p.binary o a b) = q.binary (op o) (expr a) (expr b)
  level : ∀ o, q.level (op o) = p.level o
  chains : ∀ o, q.chains (op o) = p.chains o

namespace Morphism

def frame (m : Morphism p q) : Frame E B → Frame F C
  | .group => .group
  | .call name args => .call name (args.map m.expr)
  | .unary o => .unary o
  | .binary o left => .binary (m.op o) (m.expr left)

def stack (m : Morphism p q) (s : List (Frame E B)) : List (Frame F C) :=
  s.map m.frame

theorem reduce_map (m : Morphism p q) (level : Nat) (s : List (Frame E B)) (e : E) :
    q.reduce level (m.stack s) (m.expr e) =
      (m.stack (p.reduce level s e).1, m.expr (p.reduce level s e).2) := by
  fun_induction p.reduce level s e with
  | case1 o s e ih => rw [← ih, m.unary]; rfl
  | case2 o left s e h ih =>
    rw [← ih, m.binary]
    simp only [stack, List.map_cons, frame, reduce, m.level, if_pos h]
  | case3 o left s e h => simp only [stack, List.map_cons, frame, reduce, m.level, if_neg h]
  | case4 s e hunary hbinary =>
    cases s with
    | nil => rfl
    | cons top s =>
      cases top with
      | group => rfl
      | call name args => rfl
      | unary o => exact absurd rfl (hunary o s)
      | binary o left => exact absurd rfl (hbinary o left s)

theorem await_map (m : Morphism p q) (o : B) (s : List (Frame E B)) (e : E) :
    q.await? (m.op o) (m.stack s) (m.expr e) = (p.await? o s e).map m.stack := by
  simp only [await?, m.level, m.chains, m.reduce_map]
  split
  next => rfl
  next =>
    rcases p.reduce (p.level o + 1) s e with ⟨s', left⟩
    cases s' with
    | nil => rfl
    | cons top s' =>
      cases top with
      | group => rfl
      | call name args => rfl
      | unary o' => rfl
      | binary o' operand =>
        simp only [stack, List.map_cons, frame, m.level]
        split <;> rfl

end Morphism

end Precedence

end RowQuery
