import RowQuery.Proofs.Query.Limit

/-!
# Rows by their index

The skip clause counts all rows that pass the filters, those included that the skip condition drops. A
scan reaches the same rows whatever its skip clauses are (`Scans.exists_reached`), so that asking for
the row at an index skips as many of the reached rows, or as many as the skip condition drops if these are
more (`elementAt_eq`). Without a skip condition the index is that of the result.
-/

namespace RowQuery

variable {q q' : Query} {residual : Option Lambda} {s s' : Scan} {row : Value} {rows out all : List Value}
  {seen : List String} {skipping inside : Bool}

/-! ## Scans that reach the same rows -/

/-- `q'` in the state `s'` tests rows as `q` does in `s`: without a limit, it may differ in where its
window starts. -/
structure Query.Follows (q' q : Query) (s' s : Scan) : Prop where
  ofType : q'.ofType = q.ofType
  distinct : q'.distinct = q.distinct
  takeWhile : q'.takeWhile = q.takeWhile
  seen : s'.seen = s.seen
  /-- The skip condition of `q'` is asked for a row only if that of `q` is, and is the same. -/
  skipWhile : s'.skipping = true → s.skipping = true ∧ q'.skipWhile = q.skipWhile
  take : q'.take = none

/-- The rows that a scan reaches: those that pass the filters and lie in front of the end of the window.
Every scan that follows this one leaves its own window of them. -/
structure Query.Reaches (q : Query) (residual : Option Lambda) (s : Scan) (rows all : List Value) : Prop where
  inside : ∀ row ∈ all, holds q.takeWhile row = true
  follows (q' : Query) (s' : Scan) (h : q'.Follows q s' s) :
    q'.Scans residual s' rows (q'.windowFrom s'.skipping s'.position s'.kept all)

theorem accept_congr (hofType : q'.ofType = q.ofType) (hdistinct : q'.distinct = q.distinct) :
    q'.accept residual seen row = q.accept residual seen row := by
  simp only [Query.accept, Query.newKey, hofType, hdistinct]

theorem Query.Follows.skips (h : q'.Follows q s' s) (hskips : q.skips s.skipping row = .ok skipping) :
    q'.skips s'.skipping row = .ok (s'.skipping && holds q'.skipWhile row) := by
  cases hs : s'.skipping with
  | false => rfl
  | true =>
    obtain ⟨hskipping, hsame⟩ := h.skipWhile hs
    rw [hskipping] at hskips
    rw [hsame, Bool.true_and, ← Bool.true_and (holds _ _), ← skips_eq_ok hskips]
    rw [Query.skips, if_pos rfl] at hskips ⊢
    rw [hsame, hskips]

theorem Query.Follows.places (h : q'.Follows q s' s) (hrow : q.Places residual s row seen skipping inside) :
    q'.Places residual s' row seen (s'.skipping && holds q'.skipWhile row) inside where
  accepted := by
    rw [h.seen, accept_congr h.ofType h.distinct]
    exact hrow.accepted
  skips := h.skips hrow.skips
  inside := h.takeWhile ▸ hrow.inside

theorem Query.Reaches.cons {p k : Nat} (hrow : q.Places residual s row seen skipping true)
    (h : q.Reaches residual ⟨seen, skipping, p, k⟩ rows all) :
    q.Reaches residual s (row :: rows) (row :: all) where
  inside := List.forall_mem_cons.mpr ⟨holds_of_passes hrow.inside, h.inside⟩
  follows q' s' hfollows := by
    have hrow' := hfollows.places hrow
    have hinside := holds_of_passes hrow'.inside
    have hnone (n : Nat) : n ∉ q'.take := hfollows.take ▸ Option.not_mem_none n
    have hnext (kept : Nat) : q'.Follows q
        ⟨seen, s'.skipping && holds q'.skipWhile row, s'.position + 1, kept⟩ ⟨seen, skipping, p, k⟩ :=
      { hfollows with
        seen := rfl
        skipWhile := fun hskips => by
          obtain ⟨hs', hholds⟩ := Bool.and_eq_true_iff.mp hskips
          obtain ⟨hs, hsame⟩ := hfollows.skipWhile hs'
          exact ⟨by rw [skips_eq_ok hrow.skips, hs, ← hsame, hholds]; rfl, hsame⟩ }
    cases hdrop : q'.drops (s'.skipping && holds q'.skipWhile row) s'.position with
    | true =>
      rw [windowFrom_dropped hinside hdrop]
      exact .dropped hrow' hdrop (h.follows q' _ (hnext s'.kept))
    | false =>
      rw [windowFrom_kept hinside hdrop fun n hn => absurd hn (hnone n)]
      exact .kept hrow' hdrop (fun n hn => absurd hn (hnone n)) (h.follows q' _ (hnext (s'.kept + 1)))

/-- **A scan without limit reaches its rows** whatever the window keeps of them. -/
theorem Query.Scans.exists_reached (h : q.Scans residual s rows out) (htake : q.take = none) :
    ∃ all, q.Reaches residual s rows all := by
  induction h with
  | nil s =>
    refine ⟨[], List.forall_mem_nil _, fun q' s' hfollows => ?_⟩
    rw [windowFrom_nil]
    exact .nil s'
  | refused hrow hrest ih =>
    obtain ⟨all, hall⟩ := ih
    refine ⟨all, hall.inside, fun q' s' hfollows => .refused ?_ (hall.follows q' s' hfollows)⟩
    rw [hfollows.seen, accept_congr hfollows.ofType hfollows.distinct]
    exact hrow
  | stop hrow =>
    refine ⟨[], List.forall_mem_nil _, fun q' s' hfollows => ?_⟩
    rw [windowFrom_nil]
    exact .stop (hfollows.places hrow)
  | dropped hrow hdrop hrest ih =>
    obtain ⟨all, hall⟩ := ih
    exact ⟨_, hall.cons hrow⟩
  | full hrow hkeep hn hfull => cases htake.symm.trans hn
  | kept hrow hkeep hfree hrest ih =>
    obtain ⟨all, hall⟩ := ih
    exact ⟨_, hall.cons hrow⟩

/-! ## Runs -/

/-- Rows that a run from the first row on reaches. -/
theorem Query.Reaches.shape {sorted : List Value} (h : q.Reaches residual (Scan.start q) sorted all)
    (hfollows : q'.Follows q (Scan.start q') (Scan.start q)) (hsorted : sortRows q'.order rows = .ok sorted) :
    q'.shape residual rows = .ok (all.drop (Max.max (q'.skip.getD 0) (q'.skipped all))) := by
  have htake : q'.take ≠ some 0 := fun hzero => nomatch hfollows.take.symm.trans hzero
  have hwindow : q'.window all = all.drop (Max.max (q'.skip.getD 0) (q'.skipped all)) := by
    have hinside : all.takeWhile (holds q'.takeWhile) = all :=
      List.takeWhile_eq_self_iff.mpr (hfollows.takeWhile ▸ h.inside)
    rw [Query.window, hinside, hfollows.take]
  rw [Query.shape, hsorted, ok_bind, if_neg htake, (h.follows q' _ hfollows).scan_eq, ← hwindow]
  exact congrArg _ (windowFrom_start q' all)

/-- **An index counts the rows of the result**, from the first one that the skip condition leaves: if it
drops `k` rows, the row at the index `i` is the one at `i - k` in the result, and the first one if `i ≤ k`.
The where-clause is not looked at. -/
theorem elementAt_eq {σ : Type} [RowService σ] {store store' : σ} {v : List Value}
    (hskip : q.skip = none) (htake : q.take = none)
    (h : (({ q with filter := none } : Query).toList : QueryM σ _).run.run store = (.ok v, store')) :
    ∃ all, (({ q with filter := none, skipWhile := none } : Query).toList : QueryM σ _).run.run store =
        (.ok all, store') ∧ v = all.drop (q.skipped all) ∧
      ∀ i, (q.elementAt i : QueryM σ _).run.run store = (.ok v[i - q.skipped all]?, store') := by
  obtain ⟨plan, rows, hplan, hfetch, hshape⟩ := toList_eq_ok.mp h
  obtain ⟨sorted, hsorted, hscan⟩ := bind_eq_ok.mp hshape
  rw [if_neg (by simp [htake])] at hscan
  obtain ⟨all, hall⟩ := (scan_eq_ok.mp hscan).exists_reached htake
  -- the runs with other skip clauses make the same request and reach the same rows
  have hrun (skip : Option Nat) (skipWhile : Option Lambda)
      (hsame : skipWhile = none ∨ skipWhile = q.skipWhile) :
      (({ q with filter := none, skip := skip, skipWhile := skipWhile } : Query).toList : QueryM σ _).run.run
        store = (.ok (all.drop (Max.max (skip.getD 0)
          (({ q with skipWhile := skipWhile } : Query).skipped all))), store') := by
    refine toList_eq_ok.mpr ⟨plan, rows, hplan, hfetch, hall.shape ?_ hsorted⟩
    refine ⟨rfl, rfl, rfl, rfl, fun hskips => ?_, htake⟩
    rcases hsame with rfl | rfl
    · cases hskips
    · exact ⟨hskips, rfl⟩
  have hv : v = all.drop (q.skipped all) := by
    have hself := hrun q.skip q.skipWhile (.inr rfl)
    rw [h] at hself
    have hrows := Except.ok.inj (Prod.mk.inj hself).1
    rw [hskip, Option.getD_none, Nat.zero_max] at hrows
    exact hrows
  refine ⟨all, ?_, hv, fun i => ?_⟩
  · have hwhole := hrun q.skip none (.inl rfl)
    rw [hskip] at hwhole ⊢
    exact hwhole
  · have hone := toList_take (n := 1) (hrun (some i) q.skipWhile (.inr rfl)) fun m hm =>
      nomatch htake.symm.trans hm
    have hindex : ((all.drop (Max.max i (q.skipped all))).take 1).head? = v[i - q.skipped all]? := by
      have hcount : q.skipped all + (i - q.skipped all) = Max.max i (q.skipped all) := by omega
      rw [hv, List.getElem?_drop, hcount, List.head?_take, if_neg Nat.one_ne_zero, List.head?_drop]
    rw [← hindex]
    exact QueryM.run_map hone List.head?

/-- Digits up to the first one below 3, of which the skip condition drops one. The where-clause, which no
digit meets, makes no difference. -/
theorem elementAt_eq_digits :
    let digits : MemoryStore :=
      { tables := [("digits", [.int 7, .int 9, .int 4, .int 8, .int 7, .int 2, .str "x"])] }
    ∃ q : Query, (do
        let q ← (Query.ofTable "digits" none).withFilter "n => n > 9"
        let q ← q.withDistinct "n => n"
        let q ← q.withSkipWhile "n => n < 8"
        q.withTakeWhile "n => n * 2 > 5") = .ok q ∧
      ∃ v digits', v.map Value.canonical = ["9", "4", "8"] ∧ q.skip = none ∧ q.take = none ∧
        (({ q with filter := none } : Query).toList : QueryM MemoryStore _).run.run digits =
          (.ok v, digits') ∧
        ∃ all, (({ q with filter := none, skipWhile := none } : Query).toList :
            QueryM MemoryStore _).run.run digits = (.ok all, digits') ∧ v = all.drop (q.skipped all) ∧
          ∀ i, (q.elementAt i : QueryM MemoryStore _).run.run digits =
            (.ok v[i - q.skipped all]?, digits') := by
  intro digits
  obtain ⟨q, hq, v, hrun, hv, hskip, htake⟩ : ∃ q : Query, (do
        let q ← (Query.ofTable "digits" none).withFilter "n => n > 9"
        let q ← q.withDistinct "n => n"
        let q ← q.withSkipWhile "n => n < 8"
        q.withTakeWhile "n => n * 2 > 5") = .ok q ∧
      ∃ v, ((({ q with filter := none } : Query).toList : QueryM MemoryStore _).run.run digits).1 = .ok v ∧
        v.map Value.canonical = ["9", "4", "8"] ∧ q.skip = none ∧ q.take = none := by decide +kernel
  have hrun := Prod.fst_eq_iff.mp hrun
  exact ⟨q, hq, v, _, hv, hskip, htake, hrun, elementAt_eq hskip htake hrun⟩

/-- **With a skip condition the index is not that of the result**: of the numbers from 1 to 6, the
condition leaves those from 3 on, but the row at the index 1 is 3, not 4. -/
theorem elementAt_behind_skipWhile :
    ∃ q : Query, (Query.ofValues [.int 1, .int 2, .int 3, .int 4, .int 5, .int 6]).withSkipWhile
        "n => n < 3" = .ok q ∧ q.skip = none ∧ q.take = none ∧
      ∃ v row?, ((({ q with filter := none } : Query).toList : QueryM MemoryStore _).run.run {}).1 = .ok v ∧
        ((q.elementAt 1 : QueryM MemoryStore _).run.run {}).1 = .ok row? ∧
        v.map Value.canonical = ["3", "4", "5", "6"] ∧ row?.map Value.canonical = some "3" ∧ row? ≠ v[1]? := by
  obtain ⟨q, hq, v, hv, row?, hrow, hskip, htake, htexts, htext⟩ : ∃ q : Query,
      (Query.ofValues [.int 1, .int 2, .int 3, .int 4, .int 5, .int 6]).withSkipWhile "n => n < 3" = .ok q ∧
      ∃ v, ((({ q with filter := none } : Query).toList : QueryM MemoryStore _).run.run {}).1 = .ok v ∧
        ∃ row?, ((q.elementAt 1 : QueryM MemoryStore _).run.run {}).1 = .ok row? ∧
          q.skip = none ∧ q.take = none ∧ v.map Value.canonical = ["3", "4", "5", "6"] ∧
            row?.map Value.canonical = some "3" := by decide +kernel
  refine ⟨q, hq, hskip, htake, v, row?, hv, hrow, htexts, htext, fun hsame => ?_⟩
  have hsecond : (v.map Value.canonical)[1]? = some "3" := by
    rw [List.getElem?_map, ← hsame, htext]
  rw [htexts] at hsecond
  exact absurd hsecond (by decide)

end RowQuery
