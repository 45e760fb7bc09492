import RowQuery.Proofs.Query.Window

/-!
# Conditions tested before the scan or in it

A condition that has a value for every row can be tested on the rows before they are sorted and scanned:
the scan without it gives the same outcome on the rows that meet it (`scan_filter`, `shape_filter`). A
condition that fails on a row fails the whole scan if nothing ends the scan early and no type check
refuses the row first (`scan_fails`).
-/

namespace RowQuery

variable {q : Query} {f : Lambda} {row : Value} {rows : List Value}

/-! ## Rows that meet the condition -/

theorem fate_of_refused (htype : ∀ g ∈ q.ofType, ∃ v, g.call row = .ok v)
    (hf : ∃ v, f.call row = .ok v) (h : holds (some f) row = false) (s : Scan) :
    q.fate (some f) s row = .ok .refused := by
  have hpasses : passes (some f) row = .ok false :=
    h ▸ passes_eq_holds fun g hg => Option.some.inj hg ▸ hf
  rw [Query.fate, passes_eq_holds htype, hpasses]
  cases holds q.ofType row <;> rfl

theorem fate_of_holds (hf : ∃ v, f.call row = .ok v) (h : holds (some f) row = true) (s : Scan) :
    q.fate (some f) s row = q.fate none s row := by
  have hpasses : passes (some f) row = .ok true :=
    h ▸ passes_eq_holds fun g hg => Option.some.inj hg ▸ hf
  rw [Query.fate, Query.fate, hpasses]
  rfl

/-- **Testing a condition before the scan**: the rows that fail it leave no trace. -/
theorem scan_filter (htype : ∀ g ∈ q.ofType, g.Answers rows) (hf : f.Answers rows) (s : Scan) :
    q.scan none s (rows.filter (holds (some f))) = q.scan (some f) s rows := by
  induction rows generalizing s with
  | nil => rfl
  | cons row rest ih =>
    have hrest := ih (fun g hg => (htype g hg).of_subset fun _ => List.mem_cons_of_mem row)
      (hf.of_subset fun _ => List.mem_cons_of_mem row)
    have hrow := hf row List.mem_cons_self
    cases h : holds (some f) row with
    | false =>
      rw [List.filter_cons_of_neg (by simp [h]), Query.scan,
        fate_of_refused (fun g hg => htype g hg row List.mem_cons_self) hrow h]
      exact hrest s
    | true =>
      rw [List.filter_cons_of_pos h, Query.scan, Query.scan, fate_of_holds hrow h]
      simp only [hrest]

/-- **Testing a condition before sorting**, where the sort keys order the rows. -/
theorem shape_filter (hkeys : ∀ k ∈ q.order, k.key.Answers rows) (horder : KeysOrder q.order rows)
    (htype : ∀ g ∈ q.ofType, g.Answers rows) (hf : f.Answers rows) :
    q.shape none (rows.filter (holds (some f))) = q.shape (some f) rows := by
  obtain ⟨sorted, hsorted, hperm⟩ := sortRows_perm hkeys
  have hsub : ∀ row ∈ sorted, row ∈ rows := fun _ => hperm.mem_iff.mp
  rw [Query.shape, Query.shape, hsorted, sortRows_filter hkeys horder hsorted, ok_bind, ok_bind,
    scan_filter (fun g hg => (htype g hg).of_subset hsub) (hf.of_subset hsub)]

/-! ## A condition that fails -/

theorem place_ne_stop (htakeWhile : q.takeWhile = none) {s : Scan} :
    q.place s row ≠ .ok .stop := by
  intro h
  rw [Query.place, htakeWhile] at h
  have hrest : ∀ skipping, (do
      if ← passes none row then
        let next := { s with skipping := skipping, position := s.position + 1 }
        if skipping || q.skip.any (s.position < ·) then return .dropped next
        else return .kept { next with kept := s.kept + 1 }
      else return .stop : Eval Fate) ≠ .ok .stop := by
    intro skipping h
    rw [passes, ok_bind, if_pos rfl] at h
    split at h <;> cases h
  split at h
  all_goals
    obtain ⟨skipping, -, h⟩ := bind_eq_ok.mp h
    exact hrest skipping h

theorem fate_ne_stop {residual : Option Lambda} (htakeWhile : q.takeWhile = none) {s : Scan} :
    q.fate residual s row ≠ .ok .stop := by
  intro h
  obtain ⟨isOfType, -, h⟩ := bind_eq_ok.mp h
  split at h
  next => cases h
  obtain ⟨meets, -, h⟩ := bind_eq_ok.mp h
  split at h
  next => cases h
  obtain ⟨key, -, h⟩ := bind_eq_ok.mp h
  split at h
  next => cases h
  next seen => exact place_ne_stop htakeWhile h

/-- **A condition that fails on a row fails the scan**, if the scan reaches every row. -/
theorem scan_fails (htype : ∀ g ∈ q.ofType, g.Answers rows)
    (hreached : ∀ row ∈ rows, (∀ v, f.call row ≠ .ok v) → holds q.ofType row = true)
    (htake : q.take = none) (htakeWhile : q.takeWhile = none) (hf : ¬ f.Answers rows) (s : Scan) :
    ∃ e, q.scan (some f) s rows = .error e := by
  induction rows generalizing s with
  | nil => exact absurd (fun _ h => nomatch h) hf
  | cons row rest ih =>
    have ih := ih (fun g hg => (htype g hg).of_subset fun _ => List.mem_cons_of_mem row)
      fun later hlater => hreached later (List.mem_cons_of_mem row hlater)
    cases hrow : f.call row with
    | error e =>
      have hholds := hreached row List.mem_cons_self fun v hv => nomatch hrow.symm.trans hv
      refine ⟨e, ?_⟩
      rw [Query.scan, Query.fate, passes_eq_holds fun g hg => htype g hg row List.mem_cons_self,
        hholds, passes, Lambda.test, hrow]
      rfl
    | ok v =>
      have hrest : ¬ f.Answers rest := fun h => hf (List.forall_mem_cons.mpr ⟨⟨v, hrow⟩, h⟩)
      rw [Query.scan]
      cases hfate : q.fate (some f) s row with
      | error e => exact ⟨e, rfl⟩
      | ok fate =>
        rw [ok_bind]
        cases fate with
        | refused => exact ih hrest s
        | dropped next => exact ih hrest next
        | stop => exact absurd hfate (fate_ne_stop htakeWhile)
        | kept next =>
          obtain ⟨e, he⟩ := ih hrest next
          simp only [htake, he]
          exact ⟨e, rfl⟩

end RowQuery
