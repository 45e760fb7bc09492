import RowQuery.Proofs.Precedence

/-!
# Phrases on a stack

Which tokens a stack of open frames stands for. A `Grammar` says how expressions of a language with
operators are written; `Grammar.Opens` relates a stack to the tokens that were read to get there. Its
invariant is `Grammar.floor`: what an operator completes binds tighter than the operator below it. A reader
that keeps `Opens` reads phrases of the grammar only (`Opens.reduce`, `Opens.await`).

In the other direction, `Completes` says what the operators inside an operand become when it ends, so that
a reader finds the phrases that are there (`Completes.await`).
-/

namespace RowQuery.Precedence

variable {E B T : Type} {p : Precedence E B}

/-- Level at which the left operand of an operator is written. -/
def leftLevel (p : Precedence E B) (op : B) : Nat :=
  if p.chains op then p.level op else p.level op + 1

theorem level_le_leftLevel (p : Precedence E B) (op : B) : p.level op ≤ p.leftLevel op := by
  rw [leftLevel]
  split <;> omega

/-- Level at which an operand on top of the stack is written, where `bound` is that of an operand of a unary
operator. -/
def floor (p : Precedence E B) (bound : Nat) : List (Frame E B) → Nat
  | .unary _ :: _ => bound
  | .binary op _ :: _ => p.level op + 1
  | _ => 0

/-! ## From stacks to phrases -/

/-- How the expressions of a language with the operators of `p` are written. -/
structure Grammar (p : Precedence E B) (T : Type) where
  /-- The tokens are the expression, and its operators that stand outside of parentheses bind at the level
  or tighter. -/
  Phrase : Nat → E → List T → Prop
  UnarySign : UnaryOp → T → Prop
  BinarySign : B → T → Prop
  /-- Level of the operands of unary operators. -/
  bound : Nat
  name : String → T
  /-- Names that may be called. -/
  Callable : String → Prop
  lparen : T
  comma : T
  leftLevel_lt : ∀ op, p.leftLevel op < bound
  looser : ∀ {k level e ts}, k ≤ level → Phrase level e ts → Phrase k e ts
  unary : ∀ {o t e ts}, UnarySign o t → Phrase bound e ts → Phrase bound (p.unary o e) (t :: ts)
  binary : ∀ {op t left right ls rs}, BinarySign op t → Phrase (p.leftLevel op) left ls →
    Phrase (p.level op + 1) right rs → Phrase (p.level op) (p.binary op left right) (ls ++ t :: rs)

/-- The tokens have opened the frames. -/
inductive Grammar.Opens (g : Grammar p T) : List (Frame E B) → List T → Prop where
  | empty : Opens g [] []
  | group {stack us} (h : Opens g stack us) : Opens g (.group :: stack) (us ++ [g.lparen])
  | call {stack us name} {args : List (E × List T)} (h : Opens g stack us) (hname : g.Callable name)
      (hargs : ∀ a ∈ args, g.Phrase 0 a.1 a.2) :
      Opens g (.call name (args.map (·.1)) :: stack)
        (us ++ g.name name :: g.lparen :: args.flatMap fun a => a.2 ++ [g.comma])
  | unary {stack us o t} (h : Opens g stack us) (hsign : g.UnarySign o t) :
      Opens g (.unary o :: stack) (us ++ [t])
  | binary {stack us op left ls t} (h : Opens g stack us) (hfloor : p.floor g.bound stack ≤ p.level op)
      (hleft : g.Phrase (p.leftLevel op) left ls) (hsign : g.BinarySign op t) :
      Opens g (.binary op left :: stack) (us ++ (ls ++ [t]))

variable {g : Grammar p T} {stack stack' waiting : List (Frame E B)} {op : B} {e r left last : E}
  {k level bound : Nat} {name : String} {args : List E} {t : T} {us ts : List T}

namespace Grammar

theorem floor_le (g : Grammar p T) (stack : List (Frame E B)) : p.floor g.bound stack ≤ g.bound := by
  unfold floor
  split
  · exact Nat.le_refl _
  · exact Nat.lt_of_le_of_lt (p.level_le_leftLevel _) (g.leftLevel_lt _)
  · exact Nat.zero_le _

/-- **Completing operators keeps the tokens together**: those of the operators that are completed become
part of the phrase on top. -/
theorem Opens.reduce (hlevel : level ≤ g.bound) (h : g.Opens stack us) {k : Nat}
    (hfloor : p.floor g.bound stack ≤ k) (hk : level ≤ k) (he : g.Phrase k e ts) :
    ∃ us' ts', g.Opens (p.reduce level stack e).1 us' ∧
      p.floor g.bound (p.reduce level stack e).1 ≤ level ∧
        g.Phrase level (p.reduce level stack e).2 ts' ∧ us ++ ts = us' ++ ts' := by
  fun_induction p.reduce level stack e generalizing us ts k with
  | case1 o stack e ih =>
    cases h with
    | @unary _ us _ t h hsign =>
      have hunary := g.unary hsign (g.looser hfloor he)
      obtain ⟨us', ts', hopens, hfloor', hphrase, htokens⟩ := ih h (g.floor_le stack) hlevel hunary
      exact ⟨us', ts', hopens, hfloor', hphrase, by simpa using htokens⟩
  | case2 op left stack e hle ih =>
    cases h with
    | @binary _ us _ _ ls t h hbelow hleft hsign =>
      have hbinary := g.binary hsign hleft (g.looser hfloor he)
      obtain ⟨us', ts', hopens, hfloor', hphrase, htokens⟩ := ih h hbelow hle hbinary
      exact ⟨us', ts', hopens, hfloor', hphrase, by simpa using htokens⟩
  | case3 op left stack e hlt =>
    exact ⟨us, ts, h, Nat.lt_of_not_le hlt, g.looser hk he, rfl⟩
  | case4 stack e hunary hbinary =>
    refine ⟨us, ts, h, ?_, g.looser hk he, rfl⟩
    cases h with
    | empty | group | call => exact Nat.zero_le _
    | unary h => exact absurd rfl (hunary _ _)
    | binary h => exact absurd rfl (hbinary _ _ _)

/-- An operator behind an operand is opened behind a phrase. -/
theorem Opens.await (h : g.Opens stack us) (he : g.Phrase g.bound e ts) (hsign : g.BinarySign op t)
    (hawait : p.await? op stack e = some stack') : g.Opens stack' (us ++ ts ++ [t]) := by
  have hlt := g.leftLevel_lt op
  obtain ⟨us', ts', hopens, hfloor, hphrase, htokens⟩ :=
    h.reduce (Nat.le_of_lt hlt) (g.floor_le stack) (Nat.le_of_lt hlt) he
  have hopen (hbelow : p.floor g.bound (p.reduce (p.leftLevel op) stack e).1 ≤ p.level op) :
      g.Opens (.binary op (p.reduce (p.leftLevel op) stack e).2 :: (p.reduce (p.leftLevel op) stack e).1)
        (us ++ ts ++ [t]) := by
    rw [htokens, List.append_assoc]
    exact .binary hopens hbelow hphrase hsign
  unfold await? at hawait
  by_cases hchains : p.chains op = true
  · have hleft : p.leftLevel op = p.level op := if_pos hchains
    rw [if_pos hchains] at hawait
    rw [hleft] at hfloor hopen
    cases hawait
    exact hopen hfloor
  · have hleft : p.leftLevel op = p.level op + 1 := if_neg hchains
    rw [if_neg hchains] at hawait
    rw [hleft] at hlt hfloor hopen
    -- what is left on top of the stack binds no tighter than the operator, and not equally tight
    split at hawait
    next top operand below left hreduce =>
      rw [hreduce] at hfloor hopen
      split at hawait
      · cases hawait
      next hne =>
        cases hawait
        refine hopen ?_
        simp only [floor] at hfloor ⊢
        omega
    next below left hnot hreduce =>
      rw [hreduce] at hfloor hopen
      cases hawait
      refine hopen ?_
      cases below with
      | nil => exact Nat.zero_le _
      | cons frame below =>
        cases frame with
        | group | call => exact Nat.zero_le _
        | unary o => exact absurd hfloor (Nat.not_le.mpr hlt)
        | binary top operand => exact (hnot top operand below rfl).elim

/-- A phrase behind a phrase and a comma is the next argument. -/
theorem Opens.argument (h : g.Opens (.call name args :: stack) us) (he : g.Phrase 0 e ts) :
    g.Opens (.call name (args ++ [e]) :: stack) (us ++ ts ++ [g.comma]) := by
  cases h with
  | @call _ us _ args h hname hargs =>
    have hall : ∀ a ∈ args ++ [(e, ts)], g.Phrase 0 a.1 a.2 :=
      List.forall_mem_append.mpr ⟨hargs, List.forall_mem_singleton.mpr he⟩
    simpa using Opens.call h hname hall

/-- What stands in front of the operand when all operators are complete. -/
theorem Opens.reduce_zero (h : g.Opens stack us) (he : g.Phrase g.bound e ts)
    (hreduce : p.reduce 0 stack e = (stack', r)) :
    ∃ us' ts', g.Opens stack' us' ∧ g.Phrase 0 r ts' ∧ us ++ ts = us' ++ ts' := by
  obtain ⟨us', ts', hopens, -, hphrase, htokens⟩ :=
    h.reduce (Nat.zero_le _) (g.floor_le stack) (Nat.zero_le _) he
  rw [hreduce] at hopens hphrase
  exact ⟨us', ts', hopens, hphrase, htokens⟩

theorem Opens.call_nil (h : g.Opens stack us) (hname : g.Callable name) :
    g.Opens (.call name [] :: stack) (us ++ [g.name name, g.lparen]) :=
  .call h hname (List.forall_mem_nil fun a : E × List T => g.Phrase 0 a.1 a.2)

theorem Opens.of_empty (h : g.Opens [] us) : us = [] := by
  cases h
  rfl

theorem Opens.of_group (h : g.Opens (.group :: stack) us) :
    ∃ us', g.Opens stack us' ∧ us = us' ++ [g.lparen] := by
  cases h with
  | group h => exact ⟨_, h, rfl⟩

theorem Opens.of_call (h : g.Opens (.call name args :: stack) us) :
    ∃ (us' : List T) (written : List (E × List T)), g.Opens stack us' ∧ g.Callable name ∧
      args = written.map (·.1) ∧ (∀ a ∈ written, g.Phrase 0 a.1 a.2) ∧
        us = us' ++ g.name name :: g.lparen :: written.flatMap fun a => a.2 ++ [g.comma] := by
  cases h with
  | call h hname hargs => exact ⟨_, _, h, hname, rfl, hargs, rfl⟩

end Grammar

/-- Arguments that all have a comma behind them. -/
theorem flatMap_append_eq {lists : List (List T)} (hne : lists ≠ []) (sep : List T) :
    (lists.flatMap fun ts => ts ++ sep) = sep.intercalate lists ++ sep := by
  induction lists with
  | nil => exact absurd rfl hne
  | cons ts lists ih =>
    cases lists with
    | nil => simp
    | cons next lists => rw [List.flatMap_cons, ih (List.cons_ne_nil next lists)]; simp

/-- Arguments that all have a comma behind them but the last one. -/
theorem intercalate_concat (sep : List T) (lists : List (List T)) (last : List T) :
    sep.intercalate (lists ++ [last]) = (lists.flatMap fun ts => ts ++ sep) ++ last := by
  have hall := flatMap_append_eq (List.concat_ne_nil last lists) sep
  simpa [← List.append_assoc] using hall.symm

/-! ## From phrases to stacks -/

/-- Where operators of `level` or looser follow, `last` behind the frames `waiting` is completed to `e`. -/
def Completes (p : Precedence E B) (level : Nat) (waiting : List (Frame E B)) (last e : E) : Prop :=
  ∀ k ≤ level, ∀ below, p.reduce k (waiting ++ below) last = p.reduce k below e

theorem Completes.refl (p : Precedence E B) (level : Nat) (e : E) : p.Completes level [] e e :=
  fun _ _ _ => rfl

theorem Completes.mono (h : p.Completes level waiting last e) (hk : k ≤ level) :
    p.Completes k waiting last e :=
  fun j hj => h j (Nat.le_trans hj hk)

theorem Completes.unary (o : UnaryOp) (h : p.Completes level waiting last e) :
    p.Completes level (waiting ++ [.unary o]) last (p.unary o e) := by
  intro k hk below
  rw [List.append_assoc, h k hk]
  rfl

/-- Operators of the right operand wait on top of the operator itself. -/
theorem Completes.binary (op : B) (left : E) (h : p.Completes (p.level op + 1) waiting last e) :
    p.Completes (p.level op) (waiting ++ [.binary op left]) last (p.binary op left e) := by
  intro k hk below
  rw [List.append_assoc, h k (Nat.le_succ_of_le hk)]
  exact if_pos hk

theorem reduce_of_floor_le (h : p.floor bound stack ≤ level) (hlevel : level < bound) (e : E) :
    p.reduce level stack e = (stack, e) := by
  cases stack with
  | nil => rfl
  | cons frame stack =>
    cases frame with
    | binary op left => exact if_neg (Nat.not_le.mpr h)
    | unary o => exact absurd hlevel (Nat.not_lt.mpr h)
    | group | call => rfl

/-- **An operator behind its left operand is opened** on what lay below the operand. -/
theorem Completes.await (h : p.Completes (p.leftLevel op) waiting last left)
    (hfloor : p.floor bound stack ≤ p.level op) (hlevel : p.leftLevel op < bound) :
    p.await? op (waiting ++ stack) last = some (.binary op left :: stack) := by
  have hleft : p.reduce (p.leftLevel op) (waiting ++ stack) last = (stack, left) :=
    (h _ (Nat.le_refl _) stack).trans
      (reduce_of_floor_le (Nat.le_trans hfloor (p.level_le_leftLevel op)) hlevel left)
  rw [leftLevel] at hleft
  unfold await?
  by_cases hchains : p.chains op = true
  · rw [if_pos hchains] at hleft ⊢
    simp only [hleft]
  · rw [if_neg hchains] at hleft ⊢
    simp only [hleft]
    cases stack with
    | nil => rfl
    | cons frame stack =>
      cases frame with
      | binary top operand => exact if_neg (Nat.ne_of_lt hfloor)
      | group | call | unary => rfl

end RowQuery.Precedence
