import RowQuery.Proofs.Query.Window

/-!
# Scans that end well

`Scans` is a scan as a derivation: one rule for each thing that can become of a row, with all that was
found out about the row on the way. Every scan that ends well has one (`scan_eq_ok`), so that what two
scans have in common is proved by induction over the one that is given. What such a scan keeps is the window
of the candidates, whatever the expressions do on rows that it does not reach (`shape_eq_window`).
-/

namespace RowQuery

namespace Query

/-- Distinct keys met after a row that passes the filters; nothing for a row that does not. -/
def accept (q : Query) (residual : Option Lambda) (seen : List String) (row : Value) :
    Eval (Option (List String)) := do
  if !(← passes q.ofType row) then return none
  else if !(← passes residual row) then return none
  else q.newKey seen row

/-- Whether the skip condition drops a row, when it has or has not dropped every row so far. -/
def skips (q : Query) (skipping : Bool) (row : Value) : Eval Bool :=
  if skipping then passes q.skipWhile row else .ok false

/-- A row passes the filters, and the conditions of the window have these answers for it. -/
structure Places (q : Query) (residual : Option Lambda) (s : Scan) (row : Value) (seen : List String)
    (skipping inside : Bool) : Prop where
  accepted : q.accept residual s.seen row = .ok (some seen)
  skips : q.skips s.skipping row = .ok skipping
  inside : passes q.takeWhile row = .ok inside

/-- A scan ends well and keeps the rows in the last place. -/
inductive Scans (q : Query) (residual : Option Lambda) : Scan → List Value → List Value → Prop where
  | nil (s : Scan) : Scans q residual s [] []
  | refused {s : Scan} {row : Value} {rest out : List Value}
      (hrow : q.accept residual s.seen row = .ok none) (hrest : Scans q residual s rest out) :
      Scans q residual s (row :: rest) out
  | stop {s : Scan} {row : Value} {rest : List Value} {seen : List String} {skipping : Bool}
      (hrow : q.Places residual s row seen skipping false) : Scans q residual s (row :: rest) []
  | dropped {s : Scan} {row : Value} {rest out : List Value} {seen : List String} {skipping : Bool}
      (hrow : q.Places residual s row seen skipping true) (hdrop : q.drops skipping s.position = true)
      (hrest : Scans q residual ⟨seen, skipping, s.position + 1, s.kept⟩ rest out) :
      Scans q residual s (row :: rest) out
  | full {s : Scan} {row : Value} {rest : List Value} {seen : List String} {skipping : Bool} {n : Nat}
      (hrow : q.Places residual s row seen skipping true) (hkeep : q.drops skipping s.position = false)
      (htake : q.take = some n) (hfull : n ≤ s.kept + 1) : Scans q residual s (row :: rest) [row]
  | kept {s : Scan} {row : Value} {rest out : List Value} {seen : List String} {skipping : Bool}
      (hrow : q.Places residual s row seen skipping true) (hkeep : q.drops skipping s.position = false)
      (hfree : ∀ n ∈ q.take, s.kept + 1 < n)
      (hrest : Scans q residual ⟨seen, skipping, s.position + 1, s.kept + 1⟩ rest out) :
      Scans q residual s (row :: rest) (row :: out)

end Query

variable {q : Query} {residual : Option Lambda} {s : Scan} {row : Value} {rows out : List Value}
  {seen : List String} {skipping inside : Bool}

/-! ## One row -/

theorem fate_eq_accept : q.fate residual s row = (do
    match ← q.accept residual s.seen row with
    | none => return .refused
    | some seen => q.place { s with seen := seen } row) := by
  rw [Query.fate, Query.accept]
  cases passes q.ofType row with
  | error e => rfl
  | ok isOfType =>
    cases isOfType with
    | false => rfl
    | true =>
      cases passes residual row with
      | error e => rfl
      | ok meets => cases meets <;> rfl

/-- Fate of a row that passed the filters, from what the two conditions say of it. -/
def Query.fateOf (q : Query) (s : Scan) (seen : List String) (skipping inside : Bool) : Fate :=
  if inside then
    if q.drops skipping s.position then .dropped ⟨seen, skipping, s.position + 1, s.kept⟩
    else .kept ⟨seen, skipping, s.position + 1, s.kept + 1⟩
  else .stop

theorem fateOf_dropped (h : q.drops skipping s.position = true) :
    q.fateOf s seen skipping true = .dropped ⟨seen, skipping, s.position + 1, s.kept⟩ := by
  rw [Query.fateOf, h]
  rfl

theorem fateOf_kept (h : q.drops skipping s.position = false) :
    q.fateOf s seen skipping true = .kept ⟨seen, skipping, s.position + 1, s.kept + 1⟩ := by
  rw [Query.fateOf, h]
  rfl

theorem place_eq_fateOf : q.place { s with seen := seen } row = (do
    let skipping ← q.skips s.skipping row
    let inside ← passes q.takeWhile row
    return q.fateOf s seen skipping inside) := by
  have hfate : ∀ skipping inside, (if inside = true then
      let next : Scan := ⟨seen, skipping, s.position + 1, s.kept⟩
      if (skipping || q.skip.any (s.position < ·)) = true then return .dropped next
      else return .kept { next with kept := s.kept + 1 }
    else return .stop : Eval Fate) = return q.fateOf s seen skipping inside := by
    intro skipping inside
    rw [Query.fateOf, Query.drops]
    cases inside with
    | false => rfl
    | true => cases skipping || q.skip.any (s.position < ·) <;> rfl
  rw [Query.place, Query.skips]
  simp only [← hfate]
  cases s.skipping <;> rfl

theorem Query.Places.fate_eq (h : q.Places residual s row seen skipping inside) :
    q.fate residual s row = .ok (q.fateOf s seen skipping inside) := by
  simp only [fate_eq_accept, h.accepted, ok_bind, place_eq_fateOf, h.skips, h.inside]
  rfl

/-- A row is refused, or the conditions of the window decide. -/
theorem fate_cases {fate : Fate} (h : q.fate residual s row = .ok fate) :
    q.accept residual s.seen row = .ok none ∧ fate = .refused ∨
      ∃ seen skipping inside, q.Places residual s row seen skipping inside ∧
        fate = q.fateOf s seen skipping inside := by
  rw [fate_eq_accept] at h
  obtain ⟨_ | seen, haccept, h⟩ := bind_eq_ok.mp h
  · exact .inl ⟨haccept, (Except.ok.inj h).symm⟩
  · simp only [place_eq_fateOf] at h
    obtain ⟨skipping, hskips, h⟩ := bind_eq_ok.mp h
    obtain ⟨inside, hinside, h⟩ := bind_eq_ok.mp h
    exact .inr ⟨seen, skipping, inside, ⟨haccept, hskips, hinside⟩, (Except.ok.inj h).symm⟩

theorem holds_of_passes {condition : Option Lambda} {b : Bool} (h : passes condition row = .ok b) :
    holds condition row = b := by
  rw [holds, h]

theorem skips_eq_ok (h : q.skips skipping row = .ok inside) :
    inside = (skipping && holds q.skipWhile row) := by
  cases skipping with
  | false => exact (Except.ok.inj h).symm
  | true => exact (holds_of_passes h).symm

/-! ## All rows -/

theorem take_any_iff {kept : Nat} : q.take.any (· ≤ kept) = true ↔ ∃ n, q.take = some n ∧ n ≤ kept := by
  cases q.take <;> simp

theorem Query.Scans.scan_eq (h : q.Scans residual s rows out) : q.scan residual s rows = .ok out := by
  induction h with
  | nil => rfl
  | refused hrow hrest ih =>
    rw [Query.scan, fate_eq_accept, hrow]
    exact ih
  | stop hrow =>
    rw [Query.scan, hrow.fate_eq]
    rfl
  | dropped hrow hdrop hrest ih =>
    rw [Query.scan, hrow.fate_eq, fateOf_dropped hdrop]
    exact ih
  | full hrow hkeep htake hfull =>
    rw [Query.scan, hrow.fate_eq, fateOf_kept hkeep]
    exact if_pos (take_any_iff.mpr ⟨_, htake, hfull⟩)
  | kept hrow hkeep hfree hrest ih =>
    rw [Query.scan, hrow.fate_eq, fateOf_kept hkeep]
    refine (if_neg fun hfull => ?_).trans (by rw [ih]; rfl)
    obtain ⟨n, hn, hle⟩ := take_any_iff.mp hfull
    exact Nat.not_le_of_lt (hfree n hn) hle

theorem scans_of_scan (h : q.scan residual s rows = .ok out) : q.Scans residual s rows out := by
  induction rows generalizing s out with
  | nil =>
    cases h
    exact .nil s
  | cons row rest ih =>
    obtain ⟨fate, hfate, h⟩ := bind_eq_ok.mp h
    obtain ⟨hrow, rfl⟩ | ⟨seen, skipping, inside, hrow, rfl⟩ := fate_cases hfate
    · exact .refused hrow (ih h)
    cases inside with
    | false =>
      cases h
      exact .stop hrow
    | true =>
      cases hdrop : q.drops skipping s.position with
      | true =>
        rw [fateOf_dropped hdrop] at h
        exact .dropped hrow hdrop (ih h)
      | false =>
        rw [fateOf_kept hdrop] at h
        by_cases hfull : q.take.any (· ≤ s.kept + 1) = true
        · obtain ⟨n, hn, hle⟩ := take_any_iff.mp hfull
          obtain rfl : [row] = out := Except.ok.inj ((if_pos hfull).symm.trans h)
          exact .full hrow hdrop hn hle
        · obtain ⟨tail, htail, h⟩ := bind_eq_ok.mp ((if_neg hfull).symm.trans h)
          cases h
          refine .kept hrow hdrop (fun n hn => ?_) (ih htail)
          exact Nat.lt_of_not_le fun hle => hfull (take_any_iff.mpr ⟨n, hn, hle⟩)

/-- **A scan ends well** exactly if it can be derived. -/
theorem scan_eq_ok : q.scan residual s rows = .ok out ↔ q.Scans residual s rows out :=
  ⟨scans_of_scan, Query.Scans.scan_eq⟩

/-! ## What is kept -/

/-- The key of a row that was looked for has a value. -/
theorem answers_of_newKey {found : Option (List String)} (h : q.newKey seen row = .ok found) :
    ∀ key ∈ q.distinct, ∃ v, key.call row = .ok v := by
  intro key hmem
  rw [Query.newKey, Option.mem_def.mp hmem] at h
  obtain ⟨v, hv, -⟩ := bind_eq_ok.mp h
  exact ⟨v, hv⟩

theorem fresh_cons {found : Option (List String)} (h : q.newKey seen row = .ok found) :
    q.fresh seen (row :: rows) = found.elim (q.fresh seen rows) fun seen => row :: q.fresh seen rows := by
  rcases newKey_eq (answers_of_newKey h) seen with ⟨hmet, hfresh⟩ | ⟨seen', hnew, hfresh⟩
  · cases hmet.symm.trans h
    exact hfresh rows
  · cases hnew.symm.trans h
    exact hfresh rows

/-- What the filters and the distinct key found out about a row. -/
theorem accept_eq_ok {found : Option (List String)} (h : q.accept residual seen row = .ok found)
    (rows : List Value) :
    (q.passed residual (row :: rows) = q.passed residual rows ∧ found = none) ∨
      (q.passed residual (row :: rows) = row :: q.passed residual rows ∧ q.newKey seen row = .ok found) := by
  obtain ⟨isOfType, htype, h⟩ := bind_eq_ok.mp h
  have htype := holds_of_passes htype
  cases isOfType with
  | false =>
    refine .inl ⟨?_, (Except.ok.inj h).symm⟩
    simp [Query.passed, htype]
  | true =>
    obtain ⟨meets, hmeets, h⟩ := bind_eq_ok.mp h
    have hmeets := holds_of_passes hmeets
    cases meets with
    | false =>
      refine .inl ⟨?_, (Except.ok.inj h).symm⟩
      simp [Query.passed, htype, hmeets]
    | true =>
      refine .inr ⟨?_, h⟩
      simp [Query.passed, htype, hmeets]

theorem fresh_passed_cons {found : Option (List String)} (h : q.accept residual seen row = .ok found) :
    q.fresh seen (q.passed residual (row :: rows)) =
      found.elim (q.fresh seen (q.passed residual rows)) fun seen =>
        row :: q.fresh seen (q.passed residual rows) := by
  obtain ⟨hpassed, rfl⟩ | ⟨hpassed, hkey⟩ := accept_eq_ok h rows
  · rw [hpassed]
    rfl
  · rw [hpassed]
    exact fresh_cons hkey

/-- **A scan that ends well keeps the window** of the rows with new keys that pass the filters. -/
theorem Query.Scans.eq_windowFrom (h : q.Scans residual s rows out) (hfree : ∀ n ∈ q.take, s.kept < n) :
    out = q.windowFrom s.skipping s.position s.kept (q.fresh s.seen (q.passed residual rows)) := by
  induction h with
  | nil s =>
    have hnil : q.passed residual [] = [] := rfl
    rw [hnil, fresh_nil, windowFrom_nil]
  | refused hrow hrest ih =>
    rw [fresh_passed_cons hrow]
    exact ih hfree
  | stop hrow =>
    rw [fresh_passed_cons hrow.accepted]
    exact (windowFrom_stop (holds_of_passes hrow.inside)).symm
  | dropped hrow hdrop hrest ih =>
    have hskipping := skips_eq_ok hrow.skips
    rw [fresh_passed_cons hrow.accepted, Option.elim_some,
      windowFrom_dropped (holds_of_passes hrow.inside) (hskipping ▸ hdrop), ← hskipping]
    exact ih hfree
  | full hrow hkeep htake hfull =>
    have hskipping := skips_eq_ok hrow.skips
    rw [fresh_passed_cons hrow.accepted, Option.elim_some,
      windowFrom_kept (holds_of_passes hrow.inside) (hskipping ▸ hkeep) hfree, windowFrom_full htake hfull]
  | kept hrow hkeep hfree' hrest ih =>
    have hskipping := skips_eq_ok hrow.skips
    rw [fresh_passed_cons hrow.accepted, Option.elim_some,
      windowFrom_kept (holds_of_passes hrow.inside) (hskipping ▸ hkeep) hfree, ← hskipping]
    exact congrArg _ (ih hfree')

/-- **Rows that are left** where the shaping ends well are the window of the candidates. -/
theorem shape_eq_window (h : q.shape residual rows = .ok out) :
    ∃ sorted, sortRows q.order rows = .ok sorted ∧ out = q.window (q.candidates residual sorted) := by
  obtain ⟨sorted, hsorted, h⟩ := bind_eq_ok.mp h
  refine ⟨sorted, hsorted, ?_⟩
  split at h
  next htake =>
    cases h
    rw [Query.window, htake]
    rfl
  next htake =>
    rw [← windowFrom_start, ← fresh_start]
    exact (scans_of_scan h).eq_windowFrom (start_kept_lt htake)

end RowQuery
