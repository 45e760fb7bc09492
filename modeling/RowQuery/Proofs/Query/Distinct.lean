import RowQuery.Proofs.Query.Limit
import RowQuery.Proofs.Value.Canonical
import RowQuery.Proofs.Value.Equality

/-!
# Distinct keys

The scan compares keys by their canonical texts. No text stands for two values, so that every key of a row
is the key of a row that is kept (`distinct_keeps_every_key`). The other way round, keys that are equal
have one text unless zeros of opposite signs stand in them: then both have a row that is kept
(`distinct_repeats_only_zeros`).
-/

namespace RowQuery

variable {q : Query} {key : Lambda} {residual : Option Lambda} {s : Scan} {row : Value} {v w : Value}
  {rows out : List Value}

/-! ## The first row for each text -/

theorem firstOfEach_pairwise (text : Value → String) (rows : List Value) :
    (firstOfEach text rows).Pairwise fun row later => text row ≠ text later := by
  induction rows with
  | nil => exact .nil
  | cons row rest ih =>
    refine List.pairwise_cons.mpr ⟨fun later hlater => ?_, ih.filter _⟩
    exact (of_decide_eq_true (List.mem_filter.mp hlater).2).symm

theorem exists_firstOfEach (text : Value → String) (h : row ∈ rows) :
    ∃ kept ∈ firstOfEach text rows, text kept = text row := by
  induction rows with
  | nil => cases h
  | cons first rest ih =>
    rcases List.mem_cons.mp h with rfl | hrest
    · exact ⟨row, List.mem_cons_self, rfl⟩
    · obtain ⟨kept, hkept, htext⟩ := ih hrest
      by_cases hfirst : text kept = text first
      · exact ⟨first, List.mem_cons_self, hfirst.symm.trans htext⟩
      · refine ⟨kept, List.mem_cons_of_mem first (List.mem_filter.mpr ⟨hkept, ?_⟩), htext⟩
        exact decide_eq_true hfirst

/-! ## Texts of keys -/

theorem canonical_ne_empty (v : Value) : v.canonical ≠ "" := by
  obtain ⟨c, cs, hcs, -⟩ := v.canonicalChars_eq_cons
  rw [Value.canonical, hcs]
  exact fun h => nomatch String.ofList_inj.mp h

/-- The text of a key tells its value. -/
theorem keyText_eq_canonical : keyText key row = v.canonical ↔ key.call row = .ok v := by
  constructor
  · intro h
    rw [keyText] at h
    cases hcall : key.call row with
    | error e =>
      rw [hcall] at h
      exact absurd h.symm (canonical_ne_empty v)
    | ok w =>
      rw [hcall] at h
      rw [Value.canonical_inj.mp h]
  · intro h
    rw [keyText, h]

/-- The key of a row that is kept has a value. -/
theorem Query.Scans.answers (h : q.Scans residual s rows out) (hkey : q.distinct = some key) :
    key.Answers out := by
  have haccept {s : Scan} {row : Value} {seen : List String}
      (h : q.accept residual s.seen row = .ok (some seen)) : ∃ v, key.call row = .ok v := by
    obtain ⟨-, hnone⟩ | ⟨-, hnew⟩ := accept_eq_ok h []
    · cases hnone
    · exact answers_of_newKey hnew key hkey
  induction h with
  | nil => exact List.forall_mem_nil _
  | refused hrow hrest ih => exact ih
  | stop hrow => exact List.forall_mem_nil _
  | dropped hrow hdrop hrest ih => exact ih
  | full hrow => exact List.forall_mem_singleton.mpr (haccept hrow.accepted)
  | kept hrow hkeep hfree hrest ih => exact List.forall_mem_cons.mpr ⟨haccept hrow.accepted, ih⟩

/-! ## Runs -/

section Runs

variable {σ : Type} [RowService σ] {store store' : σ}

theorem toList_eq_window (h : (q.toList : QueryM σ (List Value)).run.run store = (.ok out, store')) :
    ∃ plan rows sorted, q.plan = .ok plan ∧
      (plan.fetch : QueryM σ (List Value)).run.run store = (.ok rows, store') ∧
        sortRows q.order rows = .ok sorted ∧ out = q.window (q.candidates plan.residual sorted) := by
  obtain ⟨plan, rows, hplan, hfetch, hshape⟩ := toList_eq_ok.mp h
  obtain ⟨sorted, hsorted, hout⟩ := shape_eq_window hshape
  exact ⟨plan, rows, sorted, hplan, hfetch, hsorted, hout⟩

theorem toList_answers (h : (q.toList : QueryM σ (List Value)).run.run store = (.ok out, store'))
    (hkey : q.distinct = some key) : key.Answers out := by
  obtain ⟨plan, rows, -, -, hshape⟩ := toList_eq_ok.mp h
  obtain ⟨sorted, -, hscan⟩ := bind_eq_ok.mp hshape
  split at hscan
  next =>
    cases hscan
    exact List.forall_mem_nil _
  next => exact (scans_of_scan hscan).answers hkey

end Runs

/-- All rows of a query, one for each value of a key if there is one. -/
def Query.allBy (q : Query) (key : Option Lambda) : Query :=
  { q with distinct := key, skip := none, take := none, skipWhile := none, takeWhile := none }

theorem window_allBy (q : Query) (key : Option Lambda) (rows : List Value) :
    (q.allBy key).window rows = rows := by
  have hall : rows.takeWhile (holds none) = rows := List.takeWhile_eq_self_iff.mpr fun _ _ => rfl
  show (rows.takeWhile (holds none)).drop 0 = rows
  rw [hall, List.drop_zero]

/-- **Rows are left out only for a row with the same key**: a text stands for one value. -/
theorem distinct_keeps_every_key :
    (∀ v w : Value, v.canonical = w.canonical → v = w) ∧
    ∀ {σ : Type} [RowService σ] (q : Query) (key : Lambda) (store store₁ store₂ : σ) (rows out : List Value),
      ((q.allBy none).toList : QueryM σ (List Value)).run.run store = (.ok rows, store₁) →
      ((q.allBy (some key)).toList : QueryM σ (List Value)).run.run store = (.ok out, store₂) →
        out.Sublist rows ∧
          ∀ row ∈ rows, ∃ kept ∈ out, ∃ v, key.call row = .ok v ∧ key.call kept = .ok v := by
  refine ⟨fun v w => Value.canonical_inj.mp, fun q key store store₁ store₂ rows out hrows hout => ?_⟩
  have hanswers : key.Answers out := toList_answers hout rfl
  obtain ⟨plan, fetched, sorted, hplan, hfetch, hsorted, rfl⟩ := toList_eq_window hrows
  obtain ⟨plan', fetched', sorted', hplan', hfetch', hsorted', rfl⟩ := toList_eq_window hout
  -- the two runs ask for the same rows and sort them in the same way
  obtain rfl : plan = plan' := Except.ok.inj (hplan.symm.trans hplan')
  obtain rfl : fetched = fetched' := Except.ok.inj (Prod.mk.inj (hfetch.symm.trans hfetch')).1
  obtain rfl : sorted = sorted' := Except.ok.inj (hsorted.symm.trans hsorted')
  rw [window_allBy] at hanswers ⊢
  rw [window_allBy]
  refine ⟨firstOfEach_sublist _ _, fun row hrow => ?_⟩
  obtain ⟨kept, hkept, htext⟩ := exists_firstOfEach (keyText key) hrow
  obtain ⟨v, hv⟩ := hanswers kept hkept
  exact ⟨kept, hkept, v, keyText_eq_canonical.mp (htext ▸ keyText_eq_canonical.mpr hv), hv⟩

/-- Numbers and texts that look alike have different keys. The second one stands for both integers. -/
theorem distinct_keeps_every_key_ones :
    let ones := Query.ofValues [.float 1.0, .int 1, .str "1", .int 1]
    ∃ key rows out, Lambda.parse "n => n" = .ok key ∧
      ((ones.allBy none).toList : QueryM MemoryStore (List Value)).run.run {} = (.ok rows, {}) ∧
      ((ones.allBy (some key)).toList : QueryM MemoryStore (List Value)).run.run {} = (.ok out, {}) ∧
        out.map Value.canonical = ["1.0", "1", "\"1\""] ∧ out.Sublist rows ∧
          ∀ row ∈ rows, ∃ kept ∈ out, ∃ v, key.call row = .ok v ∧ key.call kept = .ok v := by
  intro ones
  obtain ⟨key, hkey, rows, hrows, out, hout, htexts⟩ : ∃ key, Lambda.parse "n => n" = .ok key ∧
      ∃ rows, (((ones.allBy none).toList : QueryM MemoryStore (List Value)).run.run {}).1 = .ok rows ∧
      ∃ out, (((ones.allBy (some key)).toList : QueryM MemoryStore (List Value)).run.run {}).1 = .ok out ∧
        out.map Value.canonical = ["1.0", "1", "\"1\""] := by decide +kernel
  have hrows : ((ones.allBy none).toList : QueryM MemoryStore (List Value)).run.run {} = (.ok rows, {}) :=
    Prod.ext hrows rfl
  have hout : ((ones.allBy (some key)).toList : QueryM MemoryStore (List Value)).run.run {} = (.ok out, {}) :=
    Prod.ext hout rfl
  obtain ⟨hsublist, hkept⟩ := distinct_keeps_every_key.2 ones key _ _ _ rows out hrows hout
  exact ⟨key, rows, out, hkey, hrows, hout, htexts, hsublist, hkept⟩

/-- **Equal keys have one text unless zeros of opposite signs stand in them**, and only then a row is kept
for each of the two. -/
theorem distinct_repeats_only_zeros (v w : Value) (hequal : v.strictEq w = true) :
    (v.canonical = w.canonical ↔ v.zeroSigns = w.zeroSigns) ∧
    ∀ {σ : Type} [RowService σ] (q : Query) (key : Lambda) (store store' : σ) (out : List Value),
      q.distinct = some key → (q.toList : QueryM σ (List Value)).run.run store = (.ok out, store') →
        out.Pairwise fun row later =>
          key.call row = .ok v → key.call later = .ok w → v.zeroSigns ≠ w.zeroSigns := by
  have htext : v.canonical = w.canonical ↔ v.zeroSigns = w.zeroSigns :=
    Value.canonical_inj.trans (Value.eq_iff_zeroSigns hequal)
  refine ⟨htext, fun q key store store' out hkey hout => ?_⟩
  obtain ⟨plan, fetched, sorted, -, -, -, rfl⟩ := toList_eq_window hout
  have hcandidates : q.candidates plan.residual sorted =
      firstOfEach (keyText key) (q.passed plan.residual sorted) := by rw [Query.candidates, hkey]
  have htexts : (q.window (q.candidates plan.residual sorted)).Pairwise
      fun row later => keyText key row ≠ keyText key later := by
    rw [hcandidates]
    exact (firstOfEach_pairwise _ _).sublist (window_sublist q _)
  refine htexts.imp fun {row later} hne hv hw hsigns => hne ?_
  rw [keyText_eq_canonical.mpr hv, keyText_eq_canonical.mpr hw, htext.mpr hsigns]

/-- The second zero is kept beside the first one, which it equals; the third one has the text of the
first. -/
theorem distinct_repeats_only_zeros_three :
    let zeros := Query.ofValues [.float 0.0, .float (-0.0), .float 0.0]
    (Value.float 0.0).strictEq (.float (-0.0)) = true ∧
    ((Value.float 0.0).canonical = (Value.float (-0.0)).canonical ↔
      (Value.float 0.0).zeroSigns = (Value.float (-0.0)).zeroSigns) ∧
    ∃ key out, Lambda.parse "n => n" = .ok key ∧
      ({ zeros with distinct := some key }.toList : QueryM MemoryStore (List Value)).run.run {} =
        (.ok out, {}) ∧
      out.map Value.canonical = ["0.0", "-0.0"] ∧
        out.Pairwise fun row later => key.call row = .ok (.float 0.0) → key.call later = .ok (.float (-0.0)) →
          (Value.float 0.0).zeroSigns ≠ (Value.float (-0.0)).zeroSigns := by
  intro zeros
  have hequal : (Value.float 0.0).strictEq (.float (-0.0)) = true := by decide +kernel
  obtain ⟨key, hkey, out, hout, htexts⟩ : ∃ key, Lambda.parse "n => n" = .ok key ∧
      ∃ out, (({ zeros with distinct := some key }.toList :
        QueryM MemoryStore (List Value)).run.run {}).1 = .ok out ∧
          out.map Value.canonical = ["0.0", "-0.0"] := by decide +kernel
  have hout : ({ zeros with distinct := some key }.toList : QueryM MemoryStore (List Value)).run.run {} =
      (.ok out, {}) := Prod.ext hout rfl
  obtain ⟨htext, hkept⟩ := distinct_repeats_only_zeros _ _ hequal
  exact ⟨hequal, htext, key, out, hkey, hout, htexts, hkept _ key _ _ out rfl hout⟩

/-- Zeros are equal whatever their signs, and still a query for distinct numbers keeps two of them. -/
theorem distinct_repeats_zero :
    (Value.float 0.0).strictEq (.float (-0.0)) = true ∧
    (Value.float 0.0).canonical ≠ (Value.float (-0.0)).canonical ∧
    ∃ q, (Query.ofValues [.float 0.0, .float (-0.0)]).withDistinct "n => n" = .ok q ∧
      ∃ out, ((q.toList : QueryM MemoryStore (List Value)).run.run {}).1 = .ok out ∧
        out.map Value.canonical = ["0.0", "-0.0"] := by
  decide +kernel

end RowQuery
