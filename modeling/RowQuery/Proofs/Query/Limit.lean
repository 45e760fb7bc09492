import RowQuery.Proofs.Query.Scanning

/-!
# Queries for fewer rows

A query that may keep fewer rows keeps the first of those that it keeps otherwise, and looks at no row
that it does not look at otherwise: where the longer run ends well, so does the shorter one (`Scans.take`,
`toList_take`). An answer that needs one or two rows cuts its query to these, and is what the whole result
says (`answers_of_toList`).
-/

namespace RowQuery

variable {q : Query} {residual : Option Lambda} {s : Scan} {rows out : List Value} {n : Nat}

/-! ## Shorter scans -/

/-- A query with another limit on its rows. -/
def Query.withTake (q : Query) (n : Nat) : Query :=
  { q with take := some n }

/-- **A scan for fewer rows** keeps the first ones. -/
theorem Query.Scans.take (h : q.Scans residual s rows out) (hkept : s.kept < n)
    (hle : ∀ m ∈ q.take, n ≤ m) : (q.withTake n).Scans residual s rows (out.take (n - s.kept)) := by
  induction h with
  | nil s =>
    rw [List.take_nil]
    exact .nil s
  | refused hrow hrest ih => exact .refused hrow (ih hkept)
  | stop hrow =>
    rw [List.take_nil]
    exact .stop ⟨hrow.accepted, hrow.skips, hrow.inside⟩
  | dropped hrow hdrop hrest ih =>
    exact .dropped ⟨hrow.accepted, hrow.skips, hrow.inside⟩ hdrop (ih hkept)
  | @full s row rest seen skipping m hrow hkeep htake hfull =>
    have hn : n - s.kept = 1 := by
      have := hle m htake
      omega
    rw [hn]
    exact .full ⟨hrow.accepted, hrow.skips, hrow.inside⟩ hkeep rfl ((hle m htake).trans hfull)
  | @kept s row rest out seen skipping hrow hkeep hfree hrest ih =>
    have hrow' : (q.withTake n).Places residual s row seen skipping true :=
      ⟨hrow.accepted, hrow.skips, hrow.inside⟩
    by_cases hn : n ≤ s.kept + 1
    · have hone : n - s.kept = 1 := by omega
      rw [hone]
      exact .full hrow' hkeep rfl hn
    · have hcount : n - s.kept = n - (s.kept + 1) + 1 := by omega
      rw [hcount, List.take_succ_cons]
      refine .kept hrow' hkeep (fun m hm => ?_) (ih (Nat.lt_of_not_le hn))
      exact Option.some.inj hm ▸ Nat.lt_of_not_le hn

theorem shape_take (h : q.shape residual rows = .ok out) (hle : ∀ m ∈ q.take, n ≤ m) :
    (q.withTake n).shape residual rows = .ok (out.take n) := by
  obtain ⟨sorted, hsorted, h⟩ := bind_eq_ok.mp h
  have hsorted' : sortRows (q.withTake n).order rows = .ok sorted := hsorted
  rw [Query.shape, hsorted', ok_bind]
  cases n with
  | zero =>
    rw [List.take_zero]
    rfl
  | succ n =>
    have htake : q.take ≠ some 0 := fun hzero => Nat.not_succ_le_zero n (hle 0 hzero)
    have htake' : (q.withTake (n + 1)).take ≠ some 0 := fun hzero =>
      Nat.succ_ne_zero n (Option.some.inj hzero)
    rw [if_neg htake] at h
    rw [if_neg htake']
    exact ((scan_eq_ok.mp h).take (Nat.zero_lt_succ n) hle).scan_eq

/-! ## Shorter runs -/

section Runs

variable {σ : Type} [RowService σ] {store store' : σ} {v : List Value}

theorem toList_eq_ok : (q.toList : QueryM σ (List Value)).run.run store = (.ok v, store') ↔
    ∃ plan rows, q.plan = .ok plan ∧
      (plan.fetch : QueryM σ (List Value)).run.run store = (.ok rows, store') ∧
        q.shape plan.residual rows = .ok v := by
  constructor
  · intro h
    cases hplan : q.plan with
    | error e => cases (toList_of_plan_error hplan).symm.trans h
    | ok plan =>
      cases hfetch : (plan.fetch : QueryM σ (List Value)).run.run store with
      | mk fetched store'' =>
        rw [toList_eq hplan hfetch] at h
        obtain ⟨hrows, rfl⟩ := Prod.mk.inj h
        obtain ⟨rows, rfl, hshape⟩ := bind_eq_ok.mp hrows
        refine ⟨plan, rows, rfl, hfetch, ?_⟩
        cases hout : q.shape plan.residual rows <;> rw [hout] at hshape <;> cases hshape
        rfl
  · rintro ⟨plan, rows, hplan, hfetch, hshape⟩
    rw [toList_eq hplan hfetch, ok_bind, hshape]
    rfl

/-- **A query for fewer rows** returns the first ones, and leaves the store as the longer query does. -/
theorem toList_take (h : (q.toList : QueryM σ (List Value)).run.run store = (.ok v, store'))
    (hle : ∀ m ∈ q.take, n ≤ m) :
    ((q.withTake n).toList : QueryM σ (List Value)).run.run store = (.ok (v.take n), store') := by
  obtain ⟨plan, rows, hplan, hfetch, hshape⟩ := toList_eq_ok.mp h
  exact toList_eq_ok.mpr ⟨plan, rows, hplan, hfetch, shape_take hshape hle⟩

theorem toList_limit (h : (q.toList : QueryM σ (List Value)).run.run store = (.ok v, store')) (n : Nat) :
    ((q.limit n).toList : QueryM σ (List Value)).run.run store = (.ok (v.take n), store') := by
  have hlimit : q.limit n = q.withTake (q.take.elim n (Nat.min · n)) := rfl
  cases htake : q.take with
  | none =>
    rw [hlimit, htake]
    exact toList_take h fun m hm => nomatch htake.symm.trans hm
  | some m =>
    have hle : ∀ m' ∈ q.take, m ≤ m' := fun m' hm' => (Option.some.inj (htake.symm.trans hm')).le
    -- cut to its own limit, the query is itself: the result has no more rows than that
    have hself : q.withTake m = q := by rw [Query.withTake, ← htake]
    have hfull : v.take m = v := by
      have hfirst := toList_take h hle
      rw [hself, h] at hfirst
      exact (Except.ok.inj (Prod.mk.inj hfirst).1).symm
    have hmin : v.take n = v.take (Nat.min m n) := by
      conv_lhs => rw [← hfull, List.take_take, Nat.min_comm]
    rw [hlimit, htake, hmin]
    exact toList_take h fun m' hm' => (Nat.min_le_left m n).trans (hle m' hm')

end Runs

/-! ## Answers -/

section Answers

variable {σ α β : Type} {store store' : σ}

theorem QueryM.run_bind_of_ok {m : QueryM σ α} {a : α} (h : m.run.run store = (.ok a, store'))
    (f : α → QueryM σ β) : (m >>= f).run.run store = (f a).run.run store' := by
  rw [ExceptT.run_bind, StateT.run_bind, h]
  rfl

theorem QueryM.run_map {m : QueryM σ α} {r : Run QueryError α} (h : m.run.run store = (r, store'))
    (f : α → β) : (do return f (← m) : QueryM σ β).run.run store = (r.map f, store') := by
  rw [ExceptT.run_bind, StateT.run_bind, h]
  cases r <;> rfl

theorem orDefault_eq {answer : QueryM σ (Option Value)} {r : Run QueryError (Option Value)}
    (h : answer.run.run store = (r, store')) (default : Value) :
    (Query.orDefault answer default).run.run store = (r.map (·.getD default), store') :=
  QueryM.run_map h (·.getD default)

/-- The only one of some rows; more than one is an error. -/
def onlyRow : List Value → Run QueryError (Option Value)
  | [] => .ok none
  | [row] => .ok (some row)
  | _ => Run.fail .notSingle

variable [RowService σ] {v : List Value}

/-- The answers of a query are those that the rows `v` give, and each leaves `store'` behind. -/
structure Query.AnswersAs (q : Query) (v : List Value) (store store' : σ) : Prop where
  first : (q.first : QueryM σ _).run.run store = (.ok v.head?, store')
  last : (q.last : QueryM σ _).run.run store = (.ok v.getLast?, store')
  count : (q.count : QueryM σ _).run.run store = (.ok v.length, store')
  single : (q.single : QueryM σ _).run.run store = (onlyRow v, store')
  firstOrDefault (default : Value) :
    (orDefault q.first default).run.run store = (.ok (v.head?.getD default), store')
  lastOrDefault (default : Value) :
    (orDefault q.last default).run.run store = (.ok (v.getLast?.getD default), store')
  singleOrDefault (default : Value) :
    (orDefault q.single default).run.run store = ((onlyRow v).map (·.getD default), store')
  /-- A limit that is not above the query's own one leaves the first rows. -/
  take (n : Nat) (hle : ∀ m ∈ q.take, n ≤ m) :
    ((q.withTake n).toList : QueryM σ _).run.run store = (.ok (v.take n), store')

theorem first_eq (h : (q.toList : QueryM σ (List Value)).run.run store = (.ok v, store')) :
    (q.first : QueryM σ (Option Value)).run.run store = (.ok v.head?, store') := by
  have hhead : (v.take 1).head? = v.head? := by cases v <;> rfl
  rw [← hhead]
  exact QueryM.run_map (toList_limit h 1) List.head?

theorem last_eq (h : (q.toList : QueryM σ (List Value)).run.run store = (.ok v, store')) :
    (q.last : QueryM σ (Option Value)).run.run store = (.ok v.getLast?, store') :=
  QueryM.run_map h List.getLast?

theorem single_eq (h : (q.toList : QueryM σ (List Value)).run.run store = (.ok v, store')) :
    (q.single : QueryM σ (Option Value)).run.run store = (onlyRow v, store') := by
  rw [Query.single, QueryM.run_bind_of_ok (toList_limit h 2)]
  -- two rows are enough to tell that there is more than one
  rcases v with _ | ⟨row, _ | ⟨other, rest⟩⟩ <;> rfl

/-- **Answers say what the whole result says**, where there is one. -/
theorem answers_of_toList (h : (q.toList : QueryM σ (List Value)).run.run store = (.ok v, store')) :
    q.AnswersAs v store store' where
  first := first_eq h
  last := last_eq h
  count := QueryM.run_map h List.length
  single := single_eq h
  firstOrDefault := orDefault_eq (first_eq h)
  lastOrDefault := orDefault_eq (last_eq h)
  singleOrDefault := orDefault_eq (single_eq h)
  take _ := toList_take h

/-- The first two digits from the largest one on. A word behind them, on which the where-clause would
fail, is not reached. -/
theorem answers_of_toList_digits :
    let digits : MemoryStore :=
      { tables := [("digits", [.int 7, .int 1, .int 9, .int 4, .int 8, .str "x"])] }
    ∃ q : Query, (do
        let q ← (Query.ofTable "digits" none).withFilter "n => n * 2 > 3"
        let q ← q.withDistinct "n => n % 5"
        q.withSkipWhile "n => n < 9") = .ok q ∧
      ∃ v digits', ((q.withTake 2).toList : QueryM MemoryStore _).run.run digits = (.ok v, digits') ∧
        v.map Value.canonical = ["9", "8"] ∧ (q.withTake 2).AnswersAs v digits digits' := by
  intro digits
  obtain ⟨q, hq, v, hrun, hv⟩ : ∃ q : Query, (do
        let q ← (Query.ofTable "digits" none).withFilter "n => n * 2 > 3"
        let q ← q.withDistinct "n => n % 5"
        q.withSkipWhile "n => n < 9") = .ok q ∧
      ∃ v, (((q.withTake 2).toList : QueryM MemoryStore _).run.run digits).1 = .ok v ∧
        v.map Value.canonical = ["9", "8"] := by decide +kernel
  have hrun := Prod.fst_eq_iff.mp hrun
  exact ⟨q, hq, v, _, hrun, hv, answers_of_toList hrun⟩

end Answers

end RowQuery
