import RowQuery.Proofs.Query.Limit
import RowQuery.Proofs.Value.Order
import RowQuery.Store.Memory

/-!
# Least and greatest values

The least and the greatest value are found in one pass, in which a later value takes the place of the best
one so far if it beats it. Whether a value beats another is transitive, ties are not; so no value beats the
one that is left (`isExtreme_foldl`). Queries and expressions each have a pass of their own, and find the
same values (`Query.extremes`).
-/

namespace RowQuery

variable {wanted : Ordering} {vs : List Value} {best : Value}

/-! ## One pass -/

/-- The better one of the best value so far and another. -/
def better (wanted : Ordering) (best v : Value) : Value :=
  if v.sortCompare best = wanted then v else best

/-- A value that no other one beats. -/
structure IsExtreme (wanted : Ordering) (vs : List Value) (best : Value) : Prop where
  mem : best ∈ vs
  unbeaten : ∀ v ∈ vs, v.sortCompare best ≠ wanted

theorem IsExtreme.concat (hwanted : wanted ≠ .eq) (h : IsExtreme wanted vs best) (v : Value) :
    IsExtreme wanted (vs ++ [v]) (better wanted best v) := by
  unfold better
  by_cases hbeats : v.sortCompare best = wanted
  · rw [if_pos hbeats]
    refine ⟨List.mem_append_right vs (List.mem_singleton_self v), ?_⟩
    intro u hu
    rcases List.mem_append.mp hu with hu | hu
    · exact fun huv => h.unbeaten u hu (Value.sortCompare_trans hwanted huv hbeats)
    · rw [List.mem_singleton.mp hu]
      exact Value.sortCompare_self_ne hwanted v
  · rw [if_neg hbeats]
    refine ⟨List.mem_append_left [v] h.mem, ?_⟩
    intro u hu
    rcases List.mem_append.mp hu with hu | hu
    · exact h.unbeaten u hu
    · rwa [List.mem_singleton.mp hu]

theorem isExtreme_foldl (hwanted : wanted ≠ .eq) (first : Value) (rest : List Value) :
    IsExtreme wanted (first :: rest) (rest.foldl (better wanted) first) := by
  induction rest using List.reverseRecOn with
  | nil =>
    refine ⟨List.mem_singleton_self first, ?_⟩
    intro v hv
    rw [List.mem_singleton.mp hv]
    exact Value.sortCompare_self_ne hwanted first
  | append_singleton rest v ih =>
    rw [List.foldl_append]
    exact ih.concat hwanted v

/-! ## The two passes -/

theorem extremeOf_cons (wanted : Ordering) (first : Value) (rest : List Value) :
    Builtin.extremeOf wanted (first :: rest) = some (rest.foldl (better wanted) first) := by
  rw [Builtin.extremeOf, List.foldl_cons]
  induction rest generalizing first with
  | nil => rfl
  | cons v rest ih =>
    rw [List.foldl_cons, List.foldl_cons, ← ih]
    congr 1
    show (if v.sortCompare first = wanted then some v else some first) = some (better wanted first v)
    rw [better]
    split
    · rfl
    · rfl

theorem Query.bestOf_cons {beats : Ordering → Bool} (h : ∀ o, beats o = true ↔ o = wanted) (first : Value)
    (rest : List Value) : Query.bestOf beats (first :: rest) = some (rest.foldl (better wanted) first) := by
  have hstep : (fun best v : Value => if beats (v.sortCompare best) then v else best) = better wanted := by
    funext best v
    rw [better]
    exact if_congr (h _) rfl rfl
  rw [Query.bestOf, hstep]

theorem call_min (vs : List Value) :
    Builtin.call "min" [.array vs] = .ok ((Builtin.extremeOf .lt vs).getD .null) := rfl

theorem call_max (vs : List Value) :
    Builtin.call "max" [.array vs] = .ok ((Builtin.extremeOf .gt vs).getD .null) := rfl

section Answers

variable {σ : Type} [RowService σ] {store store' : σ} {q : Query} {selector : String}

/-- **The least and the greatest value** of some values: none is less, and none is greater. The function of
the same name finds the very value that the query answers. -/
theorem Query.extremes (h : (q.select selector : QueryM σ _).run.run store = (.ok vs, store')) (hne : vs ≠ []) :
    ∃ least greatest, IsExtreme .lt vs least ∧ IsExtreme .gt vs greatest ∧
      (q.min selector : QueryM σ _).run.run store = (.ok (some least), store') ∧
      (q.max selector : QueryM σ _).run.run store = (.ok (some greatest), store') ∧
      Builtin.call "min" [.array vs] = .ok least ∧ Builtin.call "max" [.array vs] = .ok greatest := by
  obtain ⟨first, rest, rfl⟩ := List.exists_cons_of_ne_nil hne
  refine ⟨rest.foldl (better .lt) first, rest.foldl (better .gt) first, isExtreme_foldl (by decide) first rest,
    isExtreme_foldl (by decide) first rest, ?_, ?_, ?_, ?_⟩
  · have hmin := QueryM.run_map h (Query.bestOf Ordering.isLT)
    rwa [Except.map, Query.bestOf_cons fun o => Ordering.isLT_iff_eq_lt] at hmin
  · have hmax := QueryM.run_map h (Query.bestOf Ordering.isGT)
    rwa [Except.map, Query.bestOf_cons fun o => Ordering.isGT_iff_eq_gt] at hmax
  · rw [call_min, extremeOf_cons]
    rfl
  · rw [call_max, extremeOf_cons]
    rfl

/-- Two integers that both tie with the float between them. -/
theorem Query.extremes_tied :
    let q : Query := Query.ofValues [.int 9007199254740993, .float 9007199254740992.0, .int 9007199254740992]
    ∃ vs least greatest, ((q.select "n => n" : QueryM MemoryStore _).run.run {}).1 = .ok vs ∧
      vs.map Value.typeName = ["integer", "float", "integer"] ∧
      least.asInt? = some 9007199254740992 ∧ greatest.asInt? = some 9007199254740993 ∧
      IsExtreme .lt vs least ∧ IsExtreme .gt vs greatest ∧
      Builtin.call "min" [.array vs] = .ok least ∧ Builtin.call "max" [.array vs] = .ok greatest := by
  intro q
  obtain ⟨vs, hselect, hkinds, least?, hleast?, hleastInt, greatest?, hgreatest?, hgreatestInt⟩ :
      ∃ vs, ((q.select "n => n" : QueryM MemoryStore _).run.run {}).1 = .ok vs ∧
        vs.map Value.typeName = ["integer", "float", "integer"] ∧
        ∃ least?, ((q.min "n => n" : QueryM MemoryStore _).run.run {}).1 = .ok least? ∧
          least?.bind Value.asInt? = some 9007199254740992 ∧
        ∃ greatest?, ((q.max "n => n" : QueryM MemoryStore _).run.run {}).1 = .ok greatest? ∧
          greatest?.bind Value.asInt? = some 9007199254740993 := by decide +kernel
  have hne : vs ≠ [] := by
    rintro rfl
    cases hkinds
  obtain ⟨least, greatest, hleast, hgreatest, hmin, hmax, hcall, hcall'⟩ :=
    Query.extremes (Prod.fst_eq_iff.mp hselect) hne
  rw [hmin] at hleast?
  rw [hmax] at hgreatest?
  cases hleast?
  cases hgreatest?
  exact ⟨vs, least, greatest, hselect, hkinds, hleastInt, hgreatestInt, hleast, hgreatest, hcall, hcall'⟩

end Answers

end RowQuery
