import RowQuery.Proofs.Query.Built
import RowQuery.Proofs.Query.Limit

/-!
# Whether any row meets a condition

Where nothing but sort keys and a type shape the rows, `any` makes its condition the where-clause and asks
for one row. If the condition is not left to the store, this comes to the same as testing the rows of the
result one after the other, also where something fails on the way (`any_tests`): the type check, which
stands between the two, cannot fail.
-/

namespace RowQuery

open Query (anyOf)

variable {q : Query} {residual : Option Lambda} {f : Lambda} {s : Scan} {row : Value} {rows : List Value}

/-! ## Rows tested in order -/

/-- Outcome of testing rows in order: that of the first row whose test does not say no, and no if there is
none. -/
inductive Tested (f : Lambda) : List Value → Eval Bool → Prop where
  | never {rows : List Value} (h : ∀ row ∈ rows, f.test row = .ok false) : Tested f rows (.ok false)
  | first {front behind : List Value} {row : Value} (hfront : ∀ r ∈ front, f.test r = .ok false)
      (hrow : f.test row ≠ .ok false) : Tested f (front ++ row :: behind) (f.test row)

theorem Tested.cons {outcome : Eval Bool} (hrow : f.test row = .ok false) (h : Tested f rows outcome) :
    Tested f (row :: rows) outcome := by
  cases h with
  | never h => exact .never (List.forall_mem_cons.mpr ⟨hrow, h⟩)
  | @first front behind later hfront hlater =>
    rw [← List.cons_append]
    exact .first (List.forall_mem_cons.mpr ⟨hrow, hfront⟩) hlater

theorem Tested.here (hrow : f.test row ≠ .ok false) : Tested f (row :: rows) (f.test row) :=
  have hnone : ∀ r ∈ [], f.test r = .ok false := List.forall_mem_nil _
  .first hnone hrow

theorem anyOf_cons (hrow : f.test row ≠ .ok false) : anyOf f (row :: rows) = f.test row := by
  rw [anyOf]
  rcases hanswer : f.test row with e | _ | _
  · rfl
  · exact absurd hanswer hrow
  · rfl

theorem tested_anyOf (f : Lambda) (rows : List Value) : Tested f rows (anyOf f rows) := by
  induction rows with
  | nil => exact .never (List.forall_mem_nil _)
  | cons row rest ih =>
    by_cases hrow : f.test row = .ok false
    · rw [anyOf, hrow]
      exact ih.cons hrow
    · rw [anyOf_cons hrow]
      exact .here hrow

/-! ## One pass -/

/-- Nothing but sort keys, a type, a condition and a limit shape the rows of a query. -/
structure Query.Plain (q : Query) : Prop where
  distinct : q.distinct = none
  skip : q.skip = none
  skipWhile : q.skipWhile = none
  takeWhile : q.takeWhile = none

theorem isUnshaped_iff : q.isUnshaped = true ↔ q.filter = none ∧ q.take = none ∧ q.Plain := by
  simp only [Query.isUnshaped, Bool.and_eq_true, Option.isNone_iff_eq_none]
  exact ⟨fun ⟨⟨⟨⟨⟨hfilter, hdistinct⟩, hskip⟩, htake⟩, hskipWhile⟩, htakeWhile⟩ =>
      ⟨hfilter, htake, hdistinct, hskip, hskipWhile, htakeWhile⟩,
    fun ⟨hfilter, htake, h⟩ =>
      ⟨⟨⟨⟨⟨hfilter, h.distinct⟩, h.skip⟩, htake⟩, h.skipWhile⟩, h.takeWhile⟩⟩

theorem Query.Plain.place_eq (h : q.Plain) (hs : s.skipping = false) :
    q.place s row = .ok (.kept ⟨s.seen, false, s.position + 1, s.kept + 1⟩) := by
  rw [Query.place, hs, h.takeWhile, h.skip]
  rfl

theorem Query.Plain.fate_eq (h : q.Plain) (hs : s.skipping = false)
    (htype : ∀ g ∈ q.ofType, ∃ v, g.call row = .ok v) : q.fate residual s row = (do
      if holds q.ofType row then
        if ← passes residual row then return .kept ⟨s.seen, false, s.position + 1, s.kept + 1⟩
        else return .refused
      else return .refused) := by
  have hkey : q.newKey s.seen row = .ok (some s.seen) := by rw [Query.newKey, h.distinct]
  rw [Query.fate, passes_eq_holds htype, ok_bind]
  cases holds q.ofType row with
  | false => rfl
  | true =>
    cases passes residual row with
    | error e => rfl
    | ok meets =>
      cases meets with
      | false => rfl
      | true =>
        simp only [hkey, ok_bind]
        exact h.place_eq hs

/-- Without a limit and a condition, the rows of the type are kept. -/
theorem Query.Plain.scan_eq (h : q.Plain) (htake : q.take = none) (hs : s.skipping = false)
    (htype : ∀ g ∈ q.ofType, g.Answers rows) :
    q.scan none s rows = .ok (rows.filter (holds q.ofType)) := by
  induction rows generalizing s with
  | nil => rfl
  | cons row rest ih =>
    have ih (s : Scan) (hs : s.skipping = false) :=
      ih hs fun g hg => (htype g hg).of_subset fun _ => List.mem_cons_of_mem row
    rw [Query.scan, h.fate_eq hs fun g hg => htype g hg row List.mem_cons_self]
    cases hrow : holds q.ofType row with
    | false =>
      rw [List.filter_cons_of_neg (by simp [hrow])]
      exact ih s hs
    | true =>
      rw [List.filter_cons_of_pos hrow]
      have hrest := ih ⟨s.seen, false, s.position + 1, s.kept + 1⟩ rfl
      simp only [if_true, passes, ok_bind, pure_bind, htake, Option.any_none, hrest]
      rfl

/-- With a condition and for one row, the scan ends as the test of the rows does. -/
theorem Query.Plain.scan_first (h : q.Plain) (htake : q.take = some 1) (hs : s.skipping = false)
    (hkept : s.kept = 0) (htype : ∀ g ∈ q.ofType, g.Answers rows) :
    (do return !(← q.scan (some f) s rows).isEmpty) = anyOf f (rows.filter (holds q.ofType)) := by
  induction rows with
  | nil => rfl
  | cons row rest ih =>
    have ih := ih fun g hg => (htype g hg).of_subset fun _ => List.mem_cons_of_mem row
    rw [Query.scan, h.fate_eq hs fun g hg => htype g hg row List.mem_cons_self]
    cases hrow : holds q.ofType row with
    | false =>
      rw [List.filter_cons_of_neg (by simp [hrow])]
      exact ih
    | true =>
      rw [List.filter_cons_of_pos hrow, anyOf, passes]
      cases f.test row with
      | error e => rfl
      | ok meets =>
        cases meets with
        | false => exact ih
        | true =>
          simp only [if_true, ok_bind, pure_bind, htake, hkept]
          rfl

/-- The query that `any` runs for a condition. -/
def Query.firstWith (q : Query) (f : Lambda) : Query :=
  { q with filter := some f, take := some 1 }

/-- With a condition and for one row, a query ends as the test of its rows does. -/
theorem Query.Plain.shape_first (h : q.Plain) (htake : q.take = none)
    (htype : ∀ g ∈ q.ofType, ∀ rows, g.Answers rows) (rows : List Value) :
    (do return !(← (q.firstWith f).shape (some f) rows).isEmpty) = (do anyOf f (← q.shape none rows)) := by
  have h' : (q.firstWith f).Plain := ⟨h.distinct, h.skip, h.skipWhile, h.takeWhile⟩
  have horder : (q.firstWith f).order = q.order := rfl
  rw [Query.shape, Query.shape, horder]
  cases sortRows q.order rows with
  | error e => rfl
  | ok sorted =>
    have hskipping : (Scan.start q).skipping = false := by rw [Scan.start, h.skipWhile]; rfl
    have hall := h.scan_eq htake hskipping fun g hg => htype g hg sorted
    have hfirst := h'.scan_first (f := f) (s := Scan.start q) rfl hskipping rfl
      fun g hg => htype g hg sorted
    have hfree : q.take ≠ some 0 := by simp [htake]
    have hfree' : (q.firstWith f).take ≠ some 0 := fun hzero => Nat.one_ne_zero (Option.some.inj hzero)
    rw [ok_bind, ok_bind, if_neg hfree, if_neg hfree', hall]
    exact hfirst

/-! ## What is asked for -/

/-- What a query asks for where its where-clause is not left to the store. -/
def Query.wholeSource (q : Query) : Except QueryError (Request ⊕ List Value) :=
  match q.joins with
  | join :: _ => .error (.join join.name)
  | [] =>
    match q.source with
    | .values rows => .ok (.inr rows)
    | .table name partition => .ok (.inl ⟨name, none, partition⟩)

theorem plan_eq_wholeSource (h : (∃ rows, q.source = .values rows) ∨ q.pushed = .ok none) :
    q.plan = q.wholeSource.map (⟨·, q.filter⟩) := by
  rw [Query.plan, Query.wholeSource]
  cases q.joins with
  | cons join joins => rfl
  | nil =>
    obtain ⟨rows, hsource⟩ | hpushed := h
    · rw [hsource]
      rfl
    · rw [hpushed]
      cases q.source <;> rfl

/-- A condition of the query is not left to the store: the rows are given, or it may not or cannot run
there. -/
def Query.TestsHere (q : Query) (f : Lambda) : Prop :=
  (∃ rows, q.source = .values rows) ∨ q.pushdown = false ∨ PushDown.isEligible f = false

instance : Decidable (q.TestsHere f) :=
  decidable_of_iff (q.source matches .values _ ∨ q.pushdown = false ∨ PushDown.isEligible f = false) <| by
    rw [Query.TestsHere]
    cases q.source <;> simp

theorem Query.TestsHere.plan_eq (h : q.TestsHere f) :
    (q.firstWith f).plan = q.wholeSource.map (⟨·, some f⟩) := by
  refine plan_eq_wholeSource (q := q.firstWith f) (h.imp_right fun hkept => ?_)
  rw [Query.pushed, Query.firstWith]
  refine if_neg fun hsent => ?_
  obtain ⟨hon, heligible⟩ := Bool.and_eq_true_iff.mp hsent
  obtain hoff | hineligible := hkept
  · exact Bool.false_ne_true (hoff.symm.trans hon)
  · exact Bool.false_ne_true (hineligible.symm.trans heligible)

/-! ## Runs -/

theorem mapError_bind {ε δ α β : Type} (g : ε → δ) (x : Run ε α) (k : α → Run ε β) :
    Run.mapError g (do k (← x)) = (do Run.mapError g (k (← Run.mapError g x))) := by
  cases x <;> rfl

section Runs

variable {σ : Type} [RowService σ] {store store' : σ} {r : Run QueryError (List Value)} {predicate : String}

theorem any_eq_firstWith (hunshaped : q.isUnshaped = true) (hparse : Lambda.parse predicate = .ok f) :
    (q.any predicate : QueryM σ Bool) = (do return !(← (q.firstWith f).toList).isEmpty) := by
  have hread (answer : Lambda → QueryM σ Bool) :
      (QueryM.ofExcept (.ok f : Except QueryError Lambda) >>= answer) = answer f := rfl
  rw [Query.any, expression_eq_ok.mpr hparse, hread, if_pos hunshaped]
  rfl

/-- `any` ends as the result does, or in the outcome of the test of its rows. -/
theorem any_eq (hbuilt : q.Built) (hunshaped : q.isUnshaped = true)
    (hparse : Lambda.parse predicate = .ok f) (hhere : q.TestsHere f)
    (h : (q.toList : QueryM σ (List Value)).run.run store = (r, store')) :
    (q.any predicate : QueryM σ Bool).run.run store =
      (do Run.mapError .evaluation (anyOf f (← r)), store') := by
  obtain ⟨hfilter, htake, hplain⟩ := isUnshaped_iff.mp hunshaped
  have hplan : q.plan = q.wholeSource.map (⟨·, none⟩) :=
    hfilter ▸ plan_eq_wholeSource (.inr (by rw [Query.pushed, hfilter]))
  have hplan' := hhere.plan_eq
  rw [any_eq_firstWith hunshaped hparse]
  cases hsource : q.wholeSource with
  | error e =>
    rw [hsource] at hplan hplan'
    cases (toList_of_plan_error hplan).symm.trans h
    exact QueryM.run_map (toList_of_plan_error hplan') _
  | ok source =>
    rw [hsource] at hplan hplan'
    cases hfetch : ((⟨source, none⟩ : Plan).fetch : QueryM σ (List Value)).run.run store with
    | mk fetched store'' =>
      cases (toList_eq hplan hfetch).symm.trans h
      refine (QueryM.run_map (toList_eq hplan' hfetch) _).trans (congrArg (·, store') ?_)
      cases fetched with
      | error e => rfl
      | ok rows =>
        have hshape := hplain.shape_first htake (fun g hg => hbuilt.ofType_answers hg) rows (f := f)
        calc (Run.mapError QueryError.evaluation ((q.firstWith f).shape (some f) rows)).map (!·.isEmpty)
          _ = Run.mapError .evaluation (do return !(← (q.firstWith f).shape (some f) rows).isEmpty) := by
            cases (q.firstWith f).shape (some f) rows <;> rfl
          _ = Run.mapError .evaluation (do anyOf f (← q.shape none rows)) := by rw [hshape]
          _ = (do Run.mapError .evaluation (anyOf f (← Run.mapError .evaluation (q.shape none rows)))) :=
            mapError_bind _ _ _

/-- **`any` agrees with the whole result** where nothing but sort keys and a type shapes the rows and the
condition is not left to the store: it fails as the result does, and else it is the outcome of the test of
the first row whose test does not say no. -/
theorem any_tests (hbuilt : q.Built) (hunshaped : q.isUnshaped = true)
    (hparse : Lambda.parse predicate = .ok f) (hhere : q.TestsHere f)
    (h : (q.toList : QueryM σ (List Value)).run.run store = (r, store')) :
    match r with
    | .error e => (q.any predicate : QueryM σ Bool).run.run store = (.error e, store')
    | .ok rows => ∃ outcome, Tested f rows outcome ∧
        (q.any predicate : QueryM σ Bool).run.run store = (Run.mapError .evaluation outcome, store') := by
  have hany := any_eq hbuilt hunshaped hparse hhere h
  cases r with
  | error e => exact hany
  | ok rows => exact ⟨_, tested_anyOf f rows, hany⟩

/-- Numbers from the largest one on: the first one meets the condition, and the second one, on which the
condition fails, is not reached. -/
theorem any_tests_digits :
    let digits : MemoryStore := { tables := [("digits", [.int 3, .str "x", .int 9, .int 4])] }
    let predicate := "n => 36 / (n - 4) > 6"
    ∃ q f, (do
        let q ← (Query.ofTable "digits" none).orderBy "n => n" .descending none
        q.withType "int") = .ok q ∧ q.Built ∧ q.isUnshaped = true ∧
      Lambda.parse predicate = .ok f ∧ q.TestsHere f ∧
      ∃ rows digits', (q.toList : QueryM MemoryStore _).run.run digits = (.ok rows, digits') ∧
        rows.map Value.canonical = ["9", "4", "3"] ∧ Tested f rows (.ok true) ∧
        (q.any predicate : QueryM MemoryStore _).run.run digits = (.ok true, digits') := by
  intro digits predicate
  obtain ⟨q, hq, f, hparse, rows, hrun, hunshaped, hhere, htexts, htrue⟩ : ∃ q, (do
        let q ← (Query.ofTable "digits" none).orderBy "n => n" .descending none
        q.withType "int") = .ok q ∧
      ∃ f, Lambda.parse predicate = .ok f ∧
        ∃ rows, ((q.toList : QueryM MemoryStore _).run.run digits).1 = .ok rows ∧
          q.isUnshaped = true ∧ q.TestsHere f ∧ rows.map Value.canonical = ["9", "4", "3"] ∧
            ((q.any predicate : QueryM MemoryStore _).run.run digits).1 = .ok true := by decide +kernel
  have hrun := Prod.fst_eq_iff.mp hrun
  obtain ⟨ordered, hordered, htyped⟩ := bind_eq_ok.mp hq
  have hbuilt : q.Built := .ofType (.orderBy (.table "digits" none) hordered) htyped
  obtain ⟨outcome, htested, hany⟩ := any_tests hbuilt hunshaped hparse hhere hrun
  obtain rfl : outcome = .ok true := by
    rw [hany] at htrue
    cases outcome <;> cases htrue
    rfl
  exact ⟨q, f, hq, hbuilt, hunshaped, hparse, hhere, rows, _, hrun, htexts, htested, hany⟩

end Runs

end RowQuery
