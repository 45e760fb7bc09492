import Mathlib
import RowQuery.Proofs.Query.Sorting
import RowQuery.Query.Answer
import RowQuery.Store.Memory

/-!
# What a query selects

The result of a query in terms of lists: `Query.candidates` are the sorted rows that pass the filters, each
distinct key once, and `Query.window` is the part of them that the four window clauses leave. Where every
expression evaluates on every row, the scan computes exactly that, row by row
(`scan_eq_window`, `execute_eq_window`).
-/

namespace RowQuery

/-! ## Expressions that answer -/

/-- Whether a row meets a condition, if there is one. An expression that fails is no condition that a row
meets. -/
def holds (condition : Option Lambda) (row : Value) : Bool :=
  match passes condition row with
  | .ok b => b
  | .error _ => false

/-- Value of a selector for a row, the row itself without one; null where it fails. -/
def projected (selector : Option Lambda) (row : Value) : Value :=
  match selector with
  | none => row
  | some f =>
    match f.call row with
    | .ok v => v
    | .error _ => .null

/-- Text that tells the values of a distinct key apart; empty where the key fails. -/
def keyText (key : Lambda) (row : Value) : String :=
  match key.call row with
  | .ok v => v.canonical
  | .error _ => ""

/-- The first row for each text of a key. -/
def firstOfEach (key : Value → String) : List Value → List Value
  | [] => []
  | row :: rest => row :: (firstOfEach key rest).filter fun later => key later ≠ key row

namespace Query

/-- Rows that pass the filters. -/
def passed (q : Query) (residual : Option Lambda) (rows : List Value) : List Value :=
  (rows.filter (holds q.ofType)).filter (holds residual)

/-- Rows that pass the filters, each distinct key once. -/
def candidates (q : Query) (residual : Option Lambda) (rows : List Value) : List Value :=
  match q.distinct with
  | none => q.passed residual rows
  | some key => firstOfEach (keyText key) (q.passed residual rows)

/-- Number of rows that the skip condition drops: all up to the first row that fails it. -/
def skipped (q : Query) (rows : List Value) : Nat :=
  match q.skipWhile with
  | none => 0
  | some _ => (rows.takeWhile (holds q.skipWhile)).length

/-- The part of the rows that the window clauses leave. -/
def window (q : Query) (rows : List Value) : List Value :=
  let kept := (rows.takeWhile (holds q.takeWhile)).drop (Max.max (q.skip.getD 0) (q.skipped rows))
  match q.take with
  | none => kept
  | some n => kept.take n

/-- Every expression of a query has a value for each of some rows, where `residual` is what is left of
the where-clause. -/
structure Evaluates (q : Query) (residual : Option Lambda) (rows : List Value) : Prop where
  order : ∀ k ∈ q.order, k.key.Answers rows
  ofType : ∀ f ∈ q.ofType, f.Answers rows
  residual : ∀ f ∈ residual, f.Answers rows
  distinct : ∀ f ∈ q.distinct, f.Answers rows
  skipWhile : ∀ f ∈ q.skipWhile, f.Answers rows
  takeWhile : ∀ f ∈ q.takeWhile, f.Answers rows

instance {q : Query} {residual : Option Lambda} {rows : List Value} :
    Decidable (q.Evaluates residual rows) :=
  decidable_of_iff ((∀ k ∈ q.order, k.key.Answers rows) ∧ (∀ f ∈ q.ofType, f.Answers rows) ∧
      (∀ f ∈ residual, f.Answers rows) ∧ (∀ f ∈ q.distinct, f.Answers rows) ∧
      (∀ f ∈ q.skipWhile, f.Answers rows) ∧ ∀ f ∈ q.takeWhile, f.Answers rows)
    ⟨fun ⟨h₁, h₂, h₃, h₄, h₅, h₆⟩ => ⟨h₁, h₂, h₃, h₄, h₅, h₆⟩,
      fun h => ⟨h.order, h.ofType, h.residual, h.distinct, h.skipWhile, h.takeWhile⟩⟩

end Query

/-! ## Conditions -/

variable {q : Query} {residual condition : Option Lambda} {s : Scan} {row : Value}
  {rows : List Value}

theorem passes_eq_holds (h : ∀ f ∈ condition, ∃ v, f.call row = .ok v) :
    passes condition row = .ok (holds condition row) := by
  cases condition with
  | none => rfl
  | some f =>
    obtain ⟨v, hv⟩ := h f rfl
    have : passes (some f) row = .ok v.truthy := by
      rw [passes, Lambda.test, hv]
      rfl
    rw [holds, this]

theorem Query.Evaluates.of_subset {more : List Value} (h : q.Evaluates residual more)
    (hsub : ∀ row ∈ rows, row ∈ more) : q.Evaluates residual rows where
  order k hk := (h.order k hk).of_subset hsub
  ofType f hf := (h.ofType f hf).of_subset hsub
  residual f hf := (h.residual f hf).of_subset hsub
  distinct f hf := (h.distinct f hf).of_subset hsub
  skipWhile f hf := (h.skipWhile f hf).of_subset hsub
  takeWhile f hf := (h.takeWhile f hf).of_subset hsub

/-! ## The window, row by row -/

/-- Number of rows that the skip condition still drops. -/
def Query.stillSkipped (q : Query) (skipping : Bool) (rows : List Value) : Nat :=
  if skipping then (rows.takeWhile (holds q.skipWhile)).length else 0

/-- What is left of the window when some rows have been seen: whether the skip condition still drops
rows, how many rows passed the filters, and how many were kept. -/
def Query.windowFrom (q : Query) (skipping : Bool) (position kept : Nat) (rows : List Value) :
    List Value :=
  let left := (rows.takeWhile (holds q.takeWhile)).drop
    (Max.max (q.skip.getD 0 - position) (q.stillSkipped skipping rows))
  match q.take with
  | none => left
  | some n => left.take (n - kept)

theorem windowFrom_start (q : Query) (rows : List Value) :
    q.windowFrom q.skipWhile.isSome 0 0 rows = q.window rows := by
  rw [Query.windowFrom, Query.window, Query.skipped, Query.stillSkipped]
  cases q.skipWhile <;> rfl

theorem windowFrom_nil (q : Query) (skipping : Bool) (position kept : Nat) :
    q.windowFrom skipping position kept [] = [] := by
  rw [Query.windowFrom]
  cases q.take <;> simp

/-- A row that fails the take condition ends the window. -/
theorem windowFrom_stop {skipping : Bool} {position kept : Nat} (h : holds q.takeWhile row = false) :
    q.windowFrom skipping position kept (row :: rows) = [] := by
  rw [Query.windowFrom]
  cases q.take <;> simp [h]

theorem stillSkipped_cons (skipping : Bool) :
    q.stillSkipped skipping (row :: rows) =
      if skipping && holds q.skipWhile row then
        q.stillSkipped (skipping && holds q.skipWhile row) rows + 1
      else 0 := by
  cases skipping with
  | false => rfl
  | true => cases h : holds q.skipWhile row <;> simp [Query.stillSkipped, h]

theorem stillSkipped_of_not {skipping : Bool} (h : skipping = false) :
    q.stillSkipped skipping rows = 0 := by
  rw [Query.stillSkipped, h]
  rfl

/-- Whether a row lies in front of the window. -/
def Query.drops (q : Query) (skipping : Bool) (position : Nat) : Bool :=
  skipping || q.skip.any (position < ·)

theorem drops_iff {skipping : Bool} {position : Nat} :
    q.drops skipping position = true ↔ skipping = true ∨ position < q.skip.getD 0 := by
  rw [Query.drops]
  cases q.skip <;> simp

theorem windowFrom_dropped {skipping : Bool} {position kept : Nat}
    (h : holds q.takeWhile row = true)
    (hdrop : q.drops (skipping && holds q.skipWhile row) position = true) :
    q.windowFrom skipping position kept (row :: rows) =
      q.windowFrom (skipping && holds q.skipWhile row) (position + 1) kept rows := by
  have hmax : max (q.skip.getD 0 - position) (q.stillSkipped skipping (row :: rows)) =
      max (q.skip.getD 0 - (position + 1))
        (q.stillSkipped (skipping && holds q.skipWhile row) rows) + 1 := by
    rw [stillSkipped_cons]
    rw [drops_iff] at hdrop
    split
    next => omega
    next hskip =>
      rw [stillSkipped_of_not (eq_false_of_ne_true hskip)]
      have := hdrop.resolve_left hskip
      omega
  simp only [Query.windowFrom, hmax, List.takeWhile_cons, h, if_true, List.drop_succ_cons]

theorem windowFrom_kept {skipping : Bool} {position kept : Nat}
    (h : holds q.takeWhile row = true)
    (hkeep : q.drops (skipping && holds q.skipWhile row) position = false)
    (htake : ∀ n ∈ q.take, kept < n) :
    q.windowFrom skipping position kept (row :: rows) =
      row :: q.windowFrom (skipping && holds q.skipWhile row) (position + 1) (kept + 1) rows := by
  rw [← Bool.not_eq_true, drops_iff, not_or] at hkeep
  obtain ⟨hskip, hpos⟩ := hkeep
  have hnone : q.stillSkipped (skipping && holds q.skipWhile row) rows = 0 :=
    stillSkipped_of_not (eq_false_of_ne_true hskip)
  have hmax : max (q.skip.getD 0 - position) (q.stillSkipped skipping (row :: rows)) = 0 := by
    rw [stillSkipped_cons, if_neg hskip]
    omega
  have hmax' : max (q.skip.getD 0 - (position + 1))
      (q.stillSkipped (skipping && holds q.skipWhile row) rows) = 0 := by
    rw [hnone]
    omega
  simp only [Query.windowFrom, hmax, hmax', List.takeWhile_cons, h, if_true, List.drop_zero]
  cases hn : q.take with
  | none => rfl
  | some n =>
    obtain ⟨m, hm⟩ := Nat.exists_eq_add_of_lt (htake n hn)
    have h1 : n - kept = m + 1 := by omega
    have h2 : n - (kept + 1) = m := by omega
    simp only [h1, h2, List.take_succ_cons]

/-- A window that holds as many rows as it may takes no more. -/
theorem windowFrom_full {skipping : Bool} {position kept n : Nat} (htake : q.take = some n)
    (h : n ≤ kept) : q.windowFrom skipping position kept rows = [] := by
  simp [Query.windowFrom, htake, Nat.sub_eq_zero_of_le h]

/-! ## Distinct keys -/

/-- Rows with a distinct key that has not been met. -/
def Query.fresh (q : Query) (seen : List String) (rows : List Value) : List Value :=
  match q.distinct with
  | none => rows
  | some key => (firstOfEach (keyText key) rows).filter fun row => !seen.contains (keyText key row)

theorem fresh_nil (seen : List String) : q.fresh seen [] = [] := by
  rw [Query.fresh]
  cases q.distinct <;> rfl

theorem fresh_start : q.fresh [] (q.passed residual rows) = q.candidates residual rows := by
  rw [Query.fresh, Query.candidates]
  cases q.distinct with
  | none => rfl
  | some key => simp

/-- The key of a row is new, or the row counts no more. -/
theorem newKey_eq (h : ∀ f ∈ q.distinct, ∃ v, f.call row = .ok v) (seen : List String) :
    (q.newKey seen row = .ok none ∧ ∀ rows, q.fresh seen (row :: rows) = q.fresh seen rows) ∨
      ∃ seen', q.newKey seen row = .ok (some seen') ∧
        ∀ rows, q.fresh seen (row :: rows) = row :: q.fresh seen' rows := by
  cases hkey : q.distinct with
  | none => exact .inr ⟨seen, by rw [Query.newKey, hkey], fun rows => by simp only [Query.fresh, hkey]⟩
  | some key =>
    obtain ⟨v, hv⟩ := h key hkey
    have htext : keyText key row = v.canonical := by rw [keyText, hv]
    have hnew : q.newKey seen row =
        .ok (if seen.contains v.canonical then none else some (v.canonical :: seen)) := by
      simp only [Query.newKey, hkey, hv, ok_bind]
      rfl
    cases hseen : seen.contains v.canonical with
    | true =>
      refine .inl ⟨by rw [hnew, hseen]; rfl, fun rows => ?_⟩
      simp only [Query.fresh, hkey, firstOfEach, List.filter_cons, htext, hseen]
      rw [if_neg (by simp), List.filter_filter]
      refine List.filter_congr fun later _ => ?_
      -- a later row with the key of this one is met as well
      by_cases hsame : keyText key later = v.canonical
      · simpa [hsame] using hseen
      · simp [hsame]
    | false =>
      refine .inr ⟨_, by rw [hnew, hseen]; rfl, fun rows => ?_⟩
      simp only [Query.fresh, hkey, firstOfEach, List.filter_cons, htext, hseen]
      rw [if_pos (by simp), List.filter_filter]
      congr 1
      refine List.filter_congr fun later _ => ?_
      simp [Bool.and_comm]

/-! ## The scan -/

/-- The state in which a row that passed the filters is placed. -/
theorem place_eq (h : ∀ f ∈ q.skipWhile, ∃ v, f.call row = .ok v)
    (h' : ∀ f ∈ q.takeWhile, ∃ v, f.call row = .ok v) :
    q.place s row = .ok (
      let next := { s with skipping := s.skipping && holds q.skipWhile row, position := s.position + 1 }
      if holds q.takeWhile row then
        if q.drops next.skipping s.position then .dropped next
        else .kept { next with kept := s.kept + 1 }
      else .stop) := by
  cases hs : s.skipping with
  | false =>
    simp only [Query.place, hs, passes_eq_holds h', ok_bind, pure_bind, Bool.false_eq_true, if_false,
      Bool.false_and, Query.drops]
    split
    · split <;> rfl
    · rfl
  | true =>
    simp only [Query.place, hs, passes_eq_holds h, passes_eq_holds h', ok_bind, if_true, Bool.true_and,
      Query.drops]
    split
    · split <;> rfl
    · rfl

/-- A row is refused and does not count, or it is placed as the next one. -/
theorem fate_eq (h : q.Evaluates residual (row :: rows)) (s : Scan) :
    (q.fate residual s row = .ok .refused ∧
      q.fresh s.seen (q.passed residual (row :: rows)) = q.fresh s.seen (q.passed residual rows)) ∨
      ∃ seen', q.fate residual s row = q.place { s with seen := seen' } row ∧
        q.fresh s.seen (q.passed residual (row :: rows)) =
          row :: q.fresh seen' (q.passed residual rows) := by
  have htype := passes_eq_holds fun f hf => h.ofType f hf row List.mem_cons_self
  have hresidual := passes_eq_holds fun f hf => h.residual f hf row List.mem_cons_self
  simp only [Query.fate, htype, hresidual, ok_bind]
  cases hpass : holds q.ofType row && holds residual row with
  | false =>
    have hpassed : q.passed residual (row :: rows) = q.passed residual rows := by
      rw [Query.passed, List.filter_filter, List.filter_cons, Bool.and_comm, hpass, Query.passed,
        List.filter_filter]
      rfl
    refine .inl ⟨?_, by rw [hpassed]⟩
    cases htrue : holds q.ofType row with
    | false => rfl
    | true =>
      rw [htrue, Bool.true_and] at hpass
      rw [hpass]
      rfl
  | true =>
    obtain ⟨htrue, htrue'⟩ := Bool.and_eq_true_iff.mp hpass
    have hpassed : q.passed residual (row :: rows) = row :: q.passed residual rows := by
      simp [Query.passed, htrue, htrue']
    rw [hpassed]
    rcases newKey_eq (fun f hf => h.distinct f hf row List.mem_cons_self) s.seen with
      ⟨hkey, hfresh⟩ | ⟨seen', hkey, hfresh⟩
    · refine .inl ⟨?_, hfresh _⟩
      rw [htrue, htrue', hkey]
      rfl
    · refine .inr ⟨seen', ?_, hfresh _⟩
      rw [htrue, htrue', hkey]
      rfl

/-- **What the scan keeps**, from any state in which a row may still be kept. -/
theorem scan_eq (h : q.Evaluates residual rows) (s : Scan) (htake : ∀ n ∈ q.take, s.kept < n) :
    q.scan residual s rows =
      .ok (q.windowFrom s.skipping s.position s.kept (q.fresh s.seen (q.passed residual rows))) := by
  induction rows generalizing s with
  | nil =>
    have hnil : q.passed residual [] = [] := rfl
    rw [hnil, fresh_nil, windowFrom_nil]
    rfl
  | cons row rows ih =>
    have hrest := h.of_subset fun _ => List.mem_cons_of_mem row
    have hskip := fun f hf => h.skipWhile f hf row List.mem_cons_self
    have hend := fun f hf => h.takeWhile f hf row List.mem_cons_self
    rw [Query.scan]
    rcases fate_eq h s with ⟨hfate, hfresh⟩ | ⟨seen, hfate, hfresh⟩
    · rw [hfate, hfresh]
      exact ih hrest s htake
    rw [hfate, hfresh, place_eq hskip hend]
    cases hholds : holds q.takeWhile row with
    | false =>
      rw [windowFrom_stop hholds]
      rfl
    | true =>
      cases hdrop : q.drops (s.skipping && holds q.skipWhile row) s.position with
      | true =>
        rw [windowFrom_dropped hholds hdrop]
        simp only [ok_bind, hdrop, if_true]
        exact ih hrest _ htake
      | false =>
        rw [windowFrom_kept hholds hdrop htake]
        simp only [ok_bind, hdrop, Bool.false_eq_true, if_false, if_true]
        split
        next hfull =>
          obtain ⟨n, hn, hle⟩ := Option.any_eq_true _ _ |>.mp hfull
          rw [windowFrom_full hn (of_decide_eq_true hle)]
          rfl
        next hfree =>
          rw [ih hrest]
          · rfl
          · intro n hn
            rw [Option.mem_def.mp hn] at hfree
            simpa using hfree

/-! ## The whole query -/

/-- Unless no row may be kept, the first one may be. -/
theorem start_kept_lt (htake : q.take ≠ some 0) : ∀ n ∈ q.take, (Scan.start q).kept < n :=
  fun _ hn => Nat.pos_of_ne_zero fun hzero => htake (hzero ▸ hn)

theorem firstOfEach_sublist (key : Value → String) (rows : List Value) :
    (firstOfEach key rows).Sublist rows := by
  induction rows with
  | nil => exact .slnil
  | cons row rest ih => exact (List.filter_sublist.trans ih).cons_cons row

theorem window_sublist (q : Query) (rows : List Value) : (q.window rows).Sublist rows := by
  rw [Query.window]
  split
  · exact (List.drop_sublist _ _).trans (List.takeWhile_sublist _)
  · exact ((List.take_sublist _ _).trans (List.drop_sublist _ _)).trans (List.takeWhile_sublist _)

/-- A query is the answer to its plan, shaped and projected. -/
theorem execute_eq {σ : Type} [RowService σ] {plan : Plan} {store store' : σ}
    {selector : Option Lambda} {fetched : Run QueryError (List Value)} (hplan : q.plan = .ok plan)
    (hfetch : (plan.fetch : QueryM σ (List Value)).run.run store = (fetched, store')) :
    (q.execute selector : QueryM σ (List Value)).run.run store =
      (do
          let rows ← fetched
          Run.mapError .evaluation do project selector (← q.shape plan.residual rows),
        store') := by
  have hexecute : (q.execute selector : QueryM σ (List Value)) = (do
      let rows ← plan.fetch
      QueryM.ofEval do project selector (← q.shape plan.residual rows)) := by
    rw [Query.execute, hplan]
    rfl
  rw [hexecute, ExceptT.run_bind, StateT.run_bind, hfetch]
  cases fetched with
  | error e => rfl
  | ok rows => rfl

theorem toList_eq {σ : Type} [RowService σ] {plan : Plan} {store store' : σ}
    {fetched : Run QueryError (List Value)} (hplan : q.plan = .ok plan)
    (hfetch : (plan.fetch : QueryM σ (List Value)).run.run store = (fetched, store')) :
    (q.toList : QueryM σ (List Value)).run.run store =
      (do
          let rows ← fetched
          Run.mapError .evaluation (q.shape plan.residual rows),
        store') := by
  have hproject : ∀ rows : Eval (List Value), (do project none (← rows)) = rows := by
    rintro (e | rows) <;> rfl
  rw [Query.toList, execute_eq hplan hfetch]
  simp only [hproject]

theorem toList_of_plan_error {σ : Type} [RowService σ] {store : σ} {e : QueryError}
    (hplan : q.plan = .error e) :
    (q.toList : QueryM σ (List Value)).run.run store = (.error (.error e), store) := by
  rw [Query.toList, Query.execute, hplan]
  rfl

end RowQuery
