import RowQuery.Lambda.Parser
import RowQuery.Proofs.Precedence

/-!
# What the expression reader did

A successful run of `readFrom` taken apart: what one step can do for each mode (`stepOperand_eq_ok`,
`stepComplete_eq_ok`, `close_eq_ok`), and what the first token leaves to the rest of the run
(`readFrom_cons_eq_ok`). Names and properties are complete operands unless a parenthesis follows. The
whole run is then a derivation of `Reading` (`reading_of_readFrom`).
-/

namespace RowQuery.Lambda

/-! ## Runs

A run of the reader as a derivation, with one rule for each thing that it can do, so that what holds of
all runs is proved by induction over them. -/

/-- The reader, with `stack` open and `mode` next, makes `r` of the given tokens and leaves `rest`. A name
is read together with the parenthesis or the property behind it. -/
inductive Reading (params : List String) (rest : List Token) (r : Expr) :
    Stack → Mode → List Token → Prop where
  | literal {stack t ts lit} (ht : t.literal? = some lit)
      (h : Reading params rest r stack (.complete lit) ts) :
      Reading params rest r stack .operand (t :: ts)
  | name {stack name ts} (hdot : (ts ++ rest).head? ≠ some .dot)
      (hparen : (ts ++ rest).head? ≠ some .lparen)
      (h : Reading params rest r stack (.complete (resolve params name)) ts) :
      Reading params rest r stack .operand (.ident name :: ts)
  | nameProperty {stack name x ts}
      (h : Reading params rest r stack (.complete (.property (resolve params name) x)) ts) :
      Reading params rest r stack .operand (.ident name :: .dot :: .ident x :: ts)
  | call {stack name ts} (h : Reading params rest r (.call name [] :: stack) .argument ts) :
      Reading params rest r stack .operand (.ident name :: .lparen :: ts)
  | group {stack ts} (h : Reading params rest r (.group :: stack) .operand ts) :
      Reading params rest r stack .operand (.lparen :: ts)
  | unary {stack t ts op} (ht : t.unaryOp? = some op)
      (h : Reading params rest r (.unary op :: stack) .operand ts) :
      Reading params rest r stack .operand (t :: ts)
  /-- The end of an argument list that no argument precedes, or a comma. -/
  | noArgument {stack name args ts} (h : Reading params rest r stack (.complete (.call name args)) ts) :
      Reading params rest r (.call name args :: stack) .argument (.rparen :: ts)
  | argument {stack ts} (h : Reading params rest r stack .operand ts) :
      Reading params rest r stack .argument ts
  | property {stack e x ts} (h : Reading params rest r stack (.complete (.property e x)) ts) :
      Reading params rest r stack (.complete e) (.dot :: .ident x :: ts)
  | binary {stack stack' t ts op e} (ht : t.binaryOp? = some op)
      (hs : precedence.await? op stack e = some stack')
      (h : Reading params rest r stack' .operand ts) :
      Reading params rest r stack (.complete e) (t :: ts)
  | closeGroup {stack stack' ts e inner}
      (hs : precedence.reduce 0 stack e = (.group :: stack', inner))
      (h : Reading params rest r stack' (.complete inner) ts) :
      Reading params rest r stack (.complete e) (.rparen :: ts)
  | closeCall {stack stack' ts e name args last}
      (hs : precedence.reduce 0 stack e = (.call name args :: stack', last))
      (h : Reading params rest r stack' (.complete (.call name (args ++ [last]))) ts) :
      Reading params rest r stack (.complete e) (.rparen :: ts)
  | nextArgument {stack stack' ts e name args last}
      (hs : precedence.reduce 0 stack e = (.call name args :: stack', last))
      (h : Reading params rest r (.call name (args ++ [last]) :: stack') .argument ts) :
      Reading params rest r stack (.complete e) (.comma :: ts)
  | finish {stack e} (hs : precedence.reduce 0 stack e = ([], r)) :
      Reading params rest r stack (.complete e) []

variable {params : List String} {stack : Stack} {mode : Mode} {t : Token} {tokens rest : List Token}
  {e r : Expr} {s : Step}

/-! ## One step -/

theorem stepOperand_eq_ok (h : stepOperand stack t = .ok s) :
    (∃ lit, t.literal? = some lit ∧ s = .shift stack (.complete lit)) ∨
      (∃ name, t = .ident name ∧ s = .shift stack (.name name)) ∨
      (t = .lparen ∧ s = .shift (.group :: stack) .operand) ∨
      ∃ op, t.unaryOp? = some op ∧ s = .shift (.unary op :: stack) .operand := by
  unfold stepOperand at h
  split at h
  case h_1 name => cases h; exact .inr (.inl ⟨name, rfl, rfl⟩)
  case h_2 => cases h; exact .inr (.inr (.inl ⟨rfl, rfl⟩))
  case h_3 =>
    split at h
    case h_1 e hlit => cases h; exact .inl ⟨e, hlit, rfl⟩
    case h_2 op _ hop => cases h; exact .inr (.inr (.inr ⟨op, hop, rfl⟩))
    case h_3 => cases h

theorem close_eq_ok (h : close stack e t = .ok s) :
    (∃ stack' inner, precedence.reduce 0 stack e = (.group :: stack', inner) ∧ t = .rparen ∧
        s = .shift stack' (.complete inner)) ∨
      (∃ name args stack' last, precedence.reduce 0 stack e = (.call name args :: stack', last) ∧
        ((t = .rparen ∧ s = .shift stack' (.complete (.call name (args ++ [last])))) ∨
          (t = .comma ∧ s = .shift (.call name (args ++ [last]) :: stack') .argument))) ∨
      ∃ r, precedence.reduce 0 stack e = ([], r) ∧ s = .stop r := by
  unfold close at h
  rcases precedence.reduce_zero_cases stack e with
    ⟨stack', inner, hr⟩ | ⟨name, args, stack', last, hr⟩ | ⟨r, hr⟩
  · rw [hr] at h
    dsimp only at h
    split at h
    next ht => cases h; exact .inl ⟨stack', inner, hr, ht, rfl⟩
    next => cases h
  · rw [hr] at h
    dsimp only at h
    split at h
    next ht => cases h; exact .inr (.inl ⟨name, args, stack', last, hr, .inl ⟨ht, rfl⟩⟩)
    next =>
      split at h
      next ht => cases h; exact .inr (.inl ⟨name, args, stack', last, hr, .inr ⟨ht, rfl⟩⟩)
      next => cases h
  · rw [hr] at h
    cases h
    exact .inr (.inr ⟨r, hr, rfl⟩)

theorem closeEnd_eq_ok (h : closeEnd stack e = .ok r) :
    precedence.reduce 0 stack e = ([], r) := by
  unfold closeEnd at h
  rcases precedence.reduce_zero_cases stack e with
    ⟨stack', inner, hr⟩ | ⟨name, args, stack', last, hr⟩ | ⟨r', hr⟩
  · rw [hr] at h; cases h
  · rw [hr] at h; cases h
  · rw [hr] at h ⊢; cases h; rfl

theorem stepComplete_eq_ok (h : stepComplete stack e t = .ok s) :
    (t = .dot ∧ s = .shift stack (.property e)) ∨
      (∃ op stack', t.binaryOp? = some op ∧ precedence.await? op stack e = some stack' ∧
        s = .shift stack' .operand) ∨
      close stack e t = .ok s := by
  unfold stepComplete at h
  split at h
  next ht => cases h; exact .inl ⟨ht, rfl⟩
  next =>
    split at h
    next stack' hs =>
      cases h
      obtain ⟨op, hop, hawait⟩ := Option.bind_eq_some_iff.mp hs
      exact .inr (.inl ⟨op, stack', hop, hawait, rfl⟩)
    next => exact .inr (.inr h)

/-! ## The rest of a run -/

theorem readFrom_nil_eq_ok (h : readFrom params none stack mode [] = .ok (r, rest)) :
    stepEnd params stack mode = .ok r ∧ rest = [] := by
  cases hend : stepEnd params stack mode with
  | error e => simp [readFrom, hend, Except.map] at h
  | ok r' =>
    simp only [readFrom, hend, Except.map, Except.ok.injEq, Prod.mk.injEq] at h
    exact ⟨congrArg _ h.1, h.2.symm⟩

theorem readFrom_cons_eq_ok (h : readFrom params none stack mode (t :: tokens) = .ok (r, rest)) :
    (∃ stack' mode', step params stack mode t = .ok (.shift stack' mode') ∧
        readFrom params none stack' mode' tokens = .ok (r, rest)) ∨
      (step params stack mode t = .ok (.stop r) ∧ rest = t :: tokens) := by
  rw [readFrom] at h
  split at h
  next => cases h
  next stack' mode' hs => exact .inl ⟨stack', mode', hs, h⟩
  next e hs => cases h; exact .inr ⟨hs, rfl⟩

/-- A name is a complete operand unless a parenthesis follows. -/
theorem readFrom_name {fault : Option LexError} {name : String}
    (h : tokens.head? ≠ some .lparen) :
    readFrom params fault stack (.name name) tokens =
      readFrom params fault stack (.complete (resolve params name)) tokens := by
  cases tokens with
  | nil => rfl
  | cons t tokens =>
    have ht : t ≠ .lparen := by rintro rfl; exact h rfl
    simp only [readFrom, step, if_neg ht]

theorem readFrom_member_eq_ok {name : String}
    (h : readFrom params none stack (.member e name) tokens = .ok (r, rest)) :
    readFrom params none stack (.complete (.property e name)) tokens = .ok (r, rest) := by
  cases tokens with
  | nil => exact h
  | cons t tokens =>
    by_cases ht : t = .lparen
    · simp [readFrom, step, ht] at h
    · simpa only [readFrom, step, if_neg ht] using h

theorem readFrom_property_eq_ok
    (h : readFrom params none stack (.property e) tokens = .ok (r, rest)) :
    ∃ name tokens', tokens = .ident name :: tokens' ∧
      readFrom params none stack (.complete (.property e name)) tokens' = .ok (r, rest) := by
  cases tokens with
  | nil => simp [readFrom, stepEnd, Except.map] at h
  | cons t tokens =>
    rcases readFrom_cons_eq_ok h with ⟨stack', mode', hs, hrun⟩ | ⟨hs, -⟩
    · simp only [step] at hs
      split at hs
      next name => cases hs; exact ⟨name, tokens, rfl, readFrom_member_eq_ok hrun⟩
      next => cases hs
    · simp only [step] at hs
      split at hs <;> cases hs

/-! ## Whole runs -/

/-- The tokens are read by a run, up to `rest`. -/
def ReadsTo (params : List String) (rest : List Token) (stack : Stack) (mode : Mode)
    (tokens : List Token) (r : Expr) : Prop :=
  ∃ read, tokens = read ++ rest ∧ Reading params rest r stack mode read

theorem ReadsTo.cons {stack' : Stack} {mode' : Mode} (h : ReadsTo params rest stack' mode' tokens r)
    (hstep : ∀ read, Reading params rest r stack' mode' read →
      Reading params rest r stack mode (t :: read)) :
    ReadsTo params rest stack mode (t :: tokens) r := by
  obtain ⟨read, rfl, hread⟩ := h
  exact ⟨t :: read, rfl, hstep read hread⟩

/-- The statement that the induction on the number of tokens proves, for the modes that a rule starts
from. -/
def RunsTo (params : List String) (n : Nat) : Prop :=
  ∀ (tokens rest : List Token) (stack : Stack) (mode : Mode) (r : Expr), tokens.length < n →
    (mode = .operand ∨ mode = .argument ∨ ∃ e, mode = .complete e) →
      readFrom params none stack mode tokens = .ok (r, rest) → ReadsTo params rest stack mode tokens r

theorem readsTo_name {name : String} (ih : RunsTo params (tokens.length + 1))
    (h : readFrom params none stack (.name name) tokens = .ok (r, rest)) :
    ReadsTo params rest stack .operand (.ident name :: tokens) r := by
  by_cases hparen : tokens.head? = some .lparen
  · obtain ⟨tokens, rfl⟩ := List.head?_eq_some_iff.mp hparen
    rcases readFrom_cons_eq_ok h with ⟨stack', mode', hs, hrun⟩ | ⟨hs, -⟩
    · simp only [step, if_true, Except.ok.injEq, Step.shift.injEq] at hs
      obtain ⟨rfl, rfl⟩ := hs
      obtain ⟨read, rfl, hread⟩ := ih tokens rest _ .argument r
        (by simp only [List.length_cons]; omega) (.inr (.inl rfl)) hrun
      exact ⟨_, rfl, .call hread⟩
    · simp [step] at hs
  rw [readFrom_name hparen] at h
  by_cases hdot : tokens.head? = some .dot
  · obtain ⟨tokens, rfl⟩ := List.head?_eq_some_iff.mp hdot
    rcases readFrom_cons_eq_ok h with ⟨stack', mode', hs, hrun⟩ | ⟨hs, -⟩
    · simp only [step, stepComplete, if_true, Except.ok.injEq, Step.shift.injEq] at hs
      obtain ⟨rfl, rfl⟩ := hs
      obtain ⟨x, tokens, rfl, hbehind⟩ := readFrom_property_eq_ok hrun
      obtain ⟨read, rfl, hread⟩ := ih tokens rest stack _ r (by simp only [List.length_cons]; omega)
        (.inr (.inr ⟨_, rfl⟩)) hbehind
      exact ⟨_, rfl, .nameProperty hread⟩
    · simp [step, stepComplete] at hs
  · obtain ⟨read, rfl, hread⟩ := ih tokens rest stack _ r (Nat.lt_succ_self _)
      (.inr (.inr ⟨_, rfl⟩)) h
    exact ⟨_, rfl, .name hdot hparen hread⟩

theorem readsTo_operand (ih : RunsTo params tokens.length)
    (h : readFrom params none stack .operand tokens = .ok (r, rest)) :
    ReadsTo params rest stack .operand tokens r := by
  cases tokens with
  | nil => simp [readFrom, stepEnd, Except.map] at h
  | cons t tokens =>
    rcases readFrom_cons_eq_ok h with ⟨stack', mode', hs, hrun⟩ | ⟨hs, -⟩
    · rcases stepOperand_eq_ok hs with ⟨lit, ht, hs⟩ | ⟨name, rfl, hs⟩ | ⟨rfl, hs⟩ | ⟨op, ht, hs⟩
      · cases hs
        exact (ih tokens rest stack _ r (Nat.lt_succ_self _) (.inr (.inr ⟨_, rfl⟩)) hrun).cons
          fun _ => .literal ht
      · cases hs
        exact readsTo_name ih hrun
      · cases hs
        exact (ih tokens rest _ .operand r (Nat.lt_succ_self _) (.inl rfl) hrun).cons fun _ => .group
      · cases hs
        exact (ih tokens rest _ .operand r (Nat.lt_succ_self _) (.inl rfl) hrun).cons
          fun _ => .unary ht
    · rcases stepOperand_eq_ok hs with ⟨_, _, hs⟩ | ⟨_, _, hs⟩ | ⟨_, hs⟩ | ⟨_, _, hs⟩ <;> cases hs

/-- What is no end of an argument list is read as an operand. -/
theorem readFrom_argument_eq (h : tokens.head? ≠ some .rparen) :
    readFrom params none stack .argument tokens = readFrom params none stack .operand tokens := by
  cases tokens with
  | nil => rfl
  | cons t tokens =>
    have ht : t ≠ .rparen := by rintro rfl; exact h rfl
    have : step params stack .argument t = step params stack .operand t := by
      simp only [step]
      split
      next => exact absurd rfl ht
      next => rfl
    rw [readFrom, readFrom, this]

theorem readsTo_argument (ih : RunsTo params tokens.length)
    (h : readFrom params none stack .argument tokens = .ok (r, rest)) :
    ReadsTo params rest stack .argument tokens r := by
  by_cases hclose : tokens.head? = some .rparen
  · obtain ⟨tokens, rfl⟩ := List.head?_eq_some_iff.mp hclose
    rcases readFrom_cons_eq_ok h with ⟨stack', mode', hs, hrun⟩ | ⟨hs, -⟩
    · simp only [step] at hs
      split at hs
      next name args stack =>
        cases hs
        exact (ih tokens rest _ _ r (Nat.lt_succ_self _) (.inr (.inr ⟨_, rfl⟩)) hrun).cons
          fun _ => .noArgument
      next => cases hs
    · simp only [step] at hs
      split at hs <;> cases hs
  · rw [readFrom_argument_eq hclose] at h
    obtain ⟨read, hread, h⟩ := readsTo_operand ih h
    exact ⟨read, hread, .argument h⟩

theorem readsTo_complete (ih : RunsTo params tokens.length)
    (h : readFrom params none stack (.complete e) tokens = .ok (r, rest)) :
    ReadsTo params rest stack (.complete e) tokens r := by
  cases tokens with
  | nil =>
    obtain ⟨hend, rfl⟩ := readFrom_nil_eq_ok h
    exact ⟨[], rfl, .finish (closeEnd_eq_ok hend)⟩
  | cons t tokens =>
    rcases readFrom_cons_eq_ok h with ⟨stack', mode', hs, hrun⟩ | ⟨hs, hrest⟩
    · rcases stepComplete_eq_ok hs with ⟨rfl, hshift⟩ | ⟨op, stack'', hop, hawait, hshift⟩ | hclose
      · cases hshift
        obtain ⟨x, tokens, rfl, hbehind⟩ := readFrom_property_eq_ok hrun
        obtain ⟨read, rfl, hread⟩ := ih tokens rest stack _ r (by simp only [List.length_cons]; omega)
          (.inr (.inr ⟨_, rfl⟩)) hbehind
        exact ⟨_, rfl, .property hread⟩
      · cases hshift
        exact (ih tokens rest _ .operand r (Nat.lt_succ_self _) (.inl rfl) hrun).cons
          fun _ => .binary hop hawait
      · rcases close_eq_ok hclose with ⟨stack'', inner, hred, rfl, hshift⟩ |
          ⟨name, args, stack'', last, hred, ⟨rfl, hshift⟩ | ⟨rfl, hshift⟩⟩ | ⟨r', hred, hshift⟩
        · cases hshift
          exact (ih tokens rest _ (.complete _) r (Nat.lt_succ_self _) (.inr (.inr ⟨_, rfl⟩))
            hrun).cons fun _ => .closeGroup hred
        · cases hshift
          exact (ih tokens rest _ (.complete _) r (Nat.lt_succ_self _) (.inr (.inr ⟨_, rfl⟩))
            hrun).cons fun _ => .closeCall hred
        · cases hshift
          exact (ih tokens rest _ .argument r (Nat.lt_succ_self _) (.inr (.inl rfl)) hrun).cons
            fun _ => .nextArgument hred
        · cases hshift
    · rcases stepComplete_eq_ok hs with ⟨-, hshift⟩ | ⟨op, stack'', -, -, hshift⟩ | hclose
      · cases hshift
      · cases hshift
      · rcases close_eq_ok hclose with ⟨_, _, _, _, hstop⟩ |
          ⟨_, _, _, _, _, ⟨_, hstop⟩ | ⟨_, hstop⟩⟩ | ⟨r', hred, hstop⟩
        · cases hstop
        · cases hstop
        · cases hstop
        · cases hstop
          exact ⟨[], hrest.symm, .finish hred⟩

theorem Reading.not_semicolon (h : Reading params rest r stack mode tokens) :
    ∀ t ∈ tokens, t ≠ .semicolon := by
  induction h with
  | literal ht h ih => exact List.forall_mem_cons.mpr ⟨(by rintro rfl; cases ht), ih⟩
  | unary ht h ih => exact List.forall_mem_cons.mpr ⟨(by rintro rfl; cases ht), ih⟩
  | binary ht hs h ih => exact List.forall_mem_cons.mpr ⟨(by rintro rfl; cases ht), ih⟩
  | argument h ih => exact ih
  | finish hs => simp
  | _ => simpa using by assumption

theorem Reading.ne_nil (h : Reading params rest r stack .operand tokens) : tokens ≠ [] := by
  cases h <;> simp

/-- **Every successful run of the reader follows the rules.** -/
theorem reading_of_readFrom (hmode : mode = .operand ∨ mode = .argument ∨ ∃ e, mode = .complete e)
    (h : readFrom params none stack mode tokens = .ok (r, rest)) :
    ∃ read, tokens = read ++ rest ∧ Reading params rest r stack mode read := by
  have hruns : ∀ n, RunsTo params n := by
    intro n
    induction n with
    | zero => intro tokens _ _ _ _ hlt; exact absurd hlt (Nat.not_lt_zero _)
    | succ n ih =>
      intro tokens rest stack mode r hlt hmode h
      have ih : RunsTo params tokens.length := fun tokens' rest stack mode r hlt' =>
        ih tokens' rest stack mode r (by omega)
      rcases hmode with rfl | rfl | ⟨e, rfl⟩
      · exact readsTo_operand ih h
      · exact readsTo_argument ih h
      · exact readsTo_complete ih h
  exact hruns (tokens.length + 1) tokens rest stack mode r (Nat.lt_succ_self _) hmode h

end RowQuery.Lambda
