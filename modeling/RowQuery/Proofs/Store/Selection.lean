import Mathlib
import RowQuery.Proofs.Failure
import RowQuery.Store.Memory

/-!
# Answers of a store in memory

A request is answered by the rows that it selects: those in the partition that it asks for that pass its
filter, in the order of the table. Rows outside of the partition are not looked at. The filter is asked
about the other rows one by one, and the first row on which it has no value decides the answer
(`Request.StopsAt`). `Request.Answered` collects what each answer means, and `retrieve_selects` says that
the store gives these answers, notes each request, and changes nothing else.
-/

namespace RowQuery

variable {request : Request} {rows kept : List Value} {row : Value} {filter : Filter.Expr} {text : String}
  {outcome : Eval Bool} {failure : Failure EvalError}

/-! ## Rows that a request selects -/

namespace Request

/-- A row is in the partition that a request asks for; without a partition, a request covers every row. -/
def Covers (request : Request) (row : Value) : Prop :=
  ∀ p ∈ request.partition, row.get? MemoryStore.partitionKey = some (.str p)

/-- The filter of a request, if it has one, can be read. -/
def Readable (request : Request) : Prop :=
  ∀ text ∈ request.filter, ∃ filter, Filter.parse text = .ok filter

/-- What a request finds when it asks its filter about a row. Without a filter, every row passes. -/
inductive Judges (request : Request) (row : Value) : Eval Bool → Prop where
  | unfiltered (h : request.filter = none) : Judges request row (.ok true)
  | filtered {text : String} {filter : Filter.Expr} (h : request.filter = some text)
      (hparse : Filter.parse text = .ok filter) : Judges request row (filter.accepts row)

/-- A request selects the rows that it covers and that pass its filter. -/
def Selects (request : Request) (row : Value) : Prop :=
  request.Covers row ∧ request.Judges row (.ok true)

/-- The first row that a request covers and on which its filter has no value fails in this way. -/
def StopsAt (request : Request) (rows : List Value) (failure : Failure EvalError) : Prop :=
  ∃ before row behind, rows = before ++ row :: behind ∧ request.Covers row ∧
    request.Judges row (.error failure) ∧
      ∀ r ∈ before, request.Covers r → ∃ keep, request.Judges r (.ok keep)

theorem inPartition_iff : MemoryStore.inPartition request.partition row = true ↔ request.Covers row := by
  rw [Covers]
  cases request.partition with
  | none => simp [MemoryStore.inPartition]
  | some p =>
    cases hkey : row.get? MemoryStore.partitionKey <;> simp [MemoryStore.inPartition, hkey, Value.isStr_iff]

instance : DecidablePred request.Covers :=
  fun _ => decidable_of_iff _ inPartition_iff

theorem filter_inPartition (request : Request) (rows : List Value) :
    rows.filter (MemoryStore.inPartition request.partition) = rows.filter request.Covers :=
  List.filter_congr fun _ _ => by rw [Bool.eq_iff_iff, inPartition_iff, decide_eq_true_iff]

theorem judges_unfiltered_iff (h : request.filter = none) : request.Judges row outcome ↔ outcome = .ok true := by
  refine ⟨fun hjudges => ?_, fun houtcome => houtcome ▸ .unfiltered h⟩
  cases hjudges with
  | unfiltered => rfl
  | filtered h' => cases h.symm.trans h'

theorem judges_filtered_iff (h : request.filter = some text) (hparse : Filter.parse text = .ok filter) :
    request.Judges row outcome ↔ filter.accepts row = outcome := by
  refine ⟨fun hjudges => ?_, fun houtcome => houtcome ▸ .filtered h hparse⟩
  cases hjudges with
  | unfiltered h' => cases h.symm.trans h'
  | filtered h' hparse' =>
    cases h.symm.trans h'
    cases hparse.symm.trans hparse'
    rfl

theorem filter_cases (request : Request) : request.filter = none ∨
    (∃ text e, request.filter = some text ∧ Filter.parse text = .error e) ∨
      ∃ text filter, request.filter = some text ∧ Filter.parse text = .ok filter := by
  cases request.filter with
  | none => exact .inl rfl
  | some text =>
    cases hparse : Filter.parse text with
    | error e => exact .inr (.inl ⟨text, e, rfl, hparse⟩)
    | ok filter => exact .inr (.inr ⟨text, filter, rfl, hparse⟩)

theorem readable_of_parse (h : request.filter = some text) (hparse : Filter.parse text = .ok filter) :
    request.Readable := by
  intro text' h'
  cases h.symm.trans h'
  exact ⟨filter, hparse⟩

theorem not_readable {e : Filter.ParseError} (h : request.filter = some text)
    (hparse : Filter.parse text = .error e) : ¬ request.Readable := by
  intro hreadable
  obtain ⟨filter, hfilter⟩ := hreadable text h
  cases hparse.symm.trans hfilter

/-- A request whose filter cannot be read finds nothing. -/
theorem not_judges {e : Filter.ParseError} (h : request.filter = some text)
    (hparse : Filter.parse text = .error e) : ¬ request.Judges row outcome := by
  intro hjudges
  cases hjudges with
  | unfiltered h' => cases h.symm.trans h'
  | filtered h' hparse' =>
    cases h.symm.trans h'
    cases hparse.symm.trans hparse'

theorem selects_unfiltered_iff (h : request.filter = none) : request.Selects row ↔ request.Covers row := by
  simp [Selects, judges_unfiltered_iff h]

theorem selects_filtered_iff (h : request.filter = some text) (hparse : Filter.parse text = .ok filter) :
    request.Selects row ↔ request.Covers row ∧ filter.accepts row = .ok true := by
  simp [Selects, judges_filtered_iff h hparse]

instance : DecidablePred request.Selects := fun _ =>
  match h : request.filter with
  | none => decidable_of_iff' _ (selects_unfiltered_iff h)
  | some text =>
    match hparse : Filter.parse text with
    | .error _ => isFalse fun hselects => not_judges h hparse hselects.2
    | .ok _ => decidable_of_iff' _ (selects_filtered_iff h hparse)

/-! ## The row that decides -/

theorem StopsAt.exists_judges (h : request.StopsAt rows failure) :
    ∃ row ∈ rows, request.Covers row ∧ request.Judges row (.error failure) := by
  obtain ⟨before, row, behind, rfl, hcovers, hjudges, -⟩ := h
  exact ⟨row, List.mem_append_right before List.mem_cons_self, hcovers, hjudges⟩

theorem not_stopsAt_nil : ¬ request.StopsAt [] failure := by
  intro h
  obtain ⟨row, hrow, -⟩ := h.exists_judges
  cases hrow

/-- A request stops at the first row, or passes it and stops behind it. -/
theorem stopsAt_cons_iff : request.StopsAt (row :: rows) failure ↔
    request.Covers row ∧ request.Judges row (.error failure) ∨
      (request.Covers row → ∃ keep, request.Judges row (.ok keep)) ∧ request.StopsAt rows failure := by
  constructor
  · rintro ⟨before, stop, behind, h, hcovers, hjudges, hbefore⟩
    cases before with
    | nil =>
      cases h
      exact .inl ⟨hcovers, hjudges⟩
    | cons first before =>
      cases h
      obtain ⟨hfirst, hbefore⟩ := List.forall_mem_cons.mp hbefore
      exact .inr ⟨hfirst, before, stop, behind, rfl, hcovers, hjudges, hbefore⟩
  · rintro (⟨hcovers, hjudges⟩ | ⟨hrow, before, stop, behind, rfl, hcovers, hjudges, hbefore⟩)
    · exact ⟨[], row, rows, rfl, hcovers, hjudges, List.forall_mem_nil _⟩
    · exact ⟨row :: before, stop, behind, rfl, hcovers, hjudges, List.forall_mem_cons.mpr ⟨hrow, hbefore⟩⟩

end Request

/-! ## Rows that the filter accepts -/

namespace MemoryStore

theorem accepted_eq {p : Value → Bool} (h : ∀ row ∈ rows, filter.accepts row = .ok (p row)) :
    accepted filter rows = .ok (rows.filter p) := by
  induction rows with
  | nil => rfl
  | cons row rest ih =>
    obtain ⟨hrow, hrest⟩ := List.forall_mem_cons.mp h
    rw [accepted, hrow, ih hrest, ok_bind, ok_bind, List.filter_cons]
    split <;> rfl

theorem accepted_cons_eq_error_iff : accepted filter (row :: rows) = .error failure ↔
    filter.accepts row = .error failure ∨
      (∃ keep, filter.accepts row = .ok keep) ∧ accepted filter rows = .error failure := by
  rw [accepted]
  cases filter.accepts row with
  | error e => simp [bind_eq_error]
  | ok keep => cases accepted filter rows <;> simp [bind_eq_error, pure, Except.pure]

theorem exists_of_accepted_eq_ok (h : accepted filter rows = .ok kept) :
    ∀ row ∈ rows, ∃ keep, filter.accepts row = .ok keep := by
  induction rows generalizing kept with
  | nil => exact List.forall_mem_nil _
  | cons row rest ih =>
    obtain ⟨keep, hrow, h⟩ := bind_eq_ok.mp h
    obtain ⟨kept', hrest, -⟩ := bind_eq_ok.mp h
    exact List.forall_mem_cons.mpr ⟨⟨keep, hrow⟩, ih hrest⟩

theorem accepted_eq_error (hrow : row ∈ rows) (h : filter.accepts row = .error failure) :
    ∃ e, accepted filter rows = .error e := by
  cases haccepted : accepted filter rows with
  | error e => exact ⟨e, rfl⟩
  | ok kept =>
    obtain ⟨keep, hkeep⟩ := exists_of_accepted_eq_ok haccepted row hrow
    cases hkeep.symm.trans h

/-- Among the rows that a request covers, the filter fails as it does on the first row without a value. -/
theorem accepted_covered_eq_error_iff (hfilter : request.filter = some text)
    (hparse : Filter.parse text = .ok filter) :
    accepted filter (rows.filter request.Covers) = .error failure ↔ request.StopsAt rows failure := by
  induction rows with
  | nil => exact iff_of_false error_ne_ok.symm Request.not_stopsAt_nil
  | cons row rest ih =>
    rw [Request.stopsAt_cons_iff, ← ih, List.filter_cons]
    simp only [Request.judges_filtered_iff hfilter hparse]
    by_cases hcovers : request.Covers row
    · rw [if_pos (decide_eq_true hcovers), accepted_cons_eq_error_iff]
      simp [hcovers]
    · simp [hcovers]

/-- Where the filter has no value on some row, there is a first such row. -/
theorem exists_stopsAt (hfilter : request.filter = some text) (hparse : Filter.parse text = .ok filter)
    (hrow : row ∈ rows) (hcovers : request.Covers row) (hjudges : request.Judges row (.error failure)) :
    ∃ failure, request.StopsAt rows failure := by
  have hcovered : row ∈ rows.filter request.Covers := List.mem_filter.mpr ⟨hrow, decide_eq_true hcovers⟩
  obtain ⟨failure, hfailure⟩ :=
    accepted_eq_error hcovered ((Request.judges_filtered_iff hfilter hparse).mp hjudges)
  exact ⟨failure, (accepted_covered_eq_error_iff hfilter hparse).mp hfailure⟩

/-- Among the rows that a request covers, the filter accepts those that the request selects. -/
theorem accepted_covered_eq_ok_iff (hfilter : request.filter = some text)
    (hparse : Filter.parse text = .ok filter) :
    accepted filter (rows.filter request.Covers) = .ok kept ↔
      (∀ row ∈ rows, request.Covers row → ∃ keep, request.Judges row (.ok keep)) ∧
        kept = rows.filter request.Selects := by
  simp only [Request.judges_filtered_iff hfilter hparse]
  have hverdicts : (∀ row ∈ rows, request.Covers row → ∃ keep, filter.accepts row = .ok keep) ↔
      ∀ row ∈ rows.filter request.Covers, ∃ keep, filter.accepts row = .ok keep := by
    simp
  have haccepted (h : ∀ row ∈ rows.filter request.Covers, ∃ keep, filter.accepts row = .ok keep) :
      accepted filter (rows.filter request.Covers) = .ok (rows.filter request.Selects) := by
    have hselects : ∀ row ∈ rows.filter request.Covers,
        filter.accepts row = .ok (decide (request.Selects row)) := by
      intro row hrow
      obtain ⟨keep, hkeep⟩ := h row hrow
      have hcovers : request.Covers row := of_decide_eq_true (List.mem_filter.mp hrow).2
      simp [Request.selects_filtered_iff hfilter hparse, hkeep, hcovers]
    rw [accepted_eq hselects, List.filter_filter]
    refine congrArg Except.ok (List.filter_congr fun row _ => ?_)
    simpa using fun h : request.Selects row => h.1
  rw [hverdicts]
  constructor
  · intro h
    have hall := exists_of_accepted_eq_ok h
    rw [haccepted hall] at h
    cases h
    exact ⟨hall, rfl⟩
  · rintro ⟨hall, rfl⟩
    exact haccepted hall

end MemoryStore

/-! ## Answers -/

/-- What the answers to a request for rows of a table mean. -/
structure Request.Answered (request : Request) (rows : List Value) (answer : Run StoreError (List Value)) :
    Prop where
  /-- Rows come back if the filter can be read and has a value on every row that the request covers. They
  are the selected rows, in their order and as often as they occur. -/
  selected : ∀ kept, answer = .ok kept ↔ request.Readable ∧
    (∀ row ∈ rows, request.Covers row → ∃ keep, request.Judges row (.ok keep)) ∧
      kept = rows.filter request.Selects
  /-- The filter is at fault if it cannot be read, or if it is an error of evaluation that stops it. -/
  invalidFilter : ∀ text reason, answer = Run.fail (.invalidFilter text reason) ↔ request.filter = some text ∧
    ((∃ e, Filter.parse text = .error e ∧ reason = e.message) ∨
      ∃ cause, request.StopsAt rows (.error cause) ∧ reason = cause.message)
  /-- Arithmetic that overflows stops everything. -/
  overflow : ∀ o, answer = .error (.overflow o) ↔ request.StopsAt rows (.overflow o)

/-- Where nothing overflows, the filter is at fault exactly if it cannot be read or fails on some row of the
partition. -/
theorem Request.Answered.invalidFilter_iff {answer : Run StoreError (List Value)}
    (h : request.Answered rows answer) (hoverflow : ∀ o, answer ≠ .error (.overflow o)) :
    (∃ text reason, answer = Run.fail (.invalidFilter text reason)) ↔ ¬ request.Readable ∨
      ∃ row ∈ rows, request.Covers row ∧ ∃ cause, request.Judges row (Run.fail cause) := by
  rcases request.filter_cases with hfilter | ⟨text, e, hfilter, hparse⟩ | ⟨text, filter, hfilter, hparse⟩
  · refine iff_of_false ?_ ?_
    · rintro ⟨text, reason, hanswer⟩
      cases hfilter.symm.trans ((h.invalidFilter text reason).mp hanswer).1
    · rintro (hreadable | ⟨row, -, -, cause, hjudges⟩)
      · exact hreadable fun text htext => nomatch hfilter.symm.trans htext
      · cases (judges_unfiltered_iff hfilter).mp hjudges
  · refine iff_of_true ⟨text, e.message, ?_⟩ (.inl (not_readable hfilter hparse))
    exact (h.invalidFilter text e.message).mpr ⟨hfilter, .inl ⟨e, hparse, rfl⟩⟩
  · constructor
    · rintro ⟨text', reason, hanswer⟩
      obtain ⟨hfilter', ⟨e, hparse', -⟩ | ⟨cause, hstops, -⟩⟩ := (h.invalidFilter text' reason).mp hanswer
      · exact .inl (not_readable hfilter' hparse')
      · obtain ⟨row, hrow, hcovers, hjudges⟩ := hstops.exists_judges
        exact .inr ⟨row, hrow, hcovers, cause, hjudges⟩
    · rintro (hreadable | ⟨row, hrow, hcovers, cause, hjudges⟩)
      · exact absurd (readable_of_parse hfilter hparse) hreadable
      · obtain ⟨stop | o, hstops⟩ := MemoryStore.exists_stopsAt hfilter hparse hrow hcovers hjudges
        · exact ⟨text, stop.message, (h.invalidFilter text stop.message).mpr
            ⟨hfilter, .inr ⟨stop, hstops, rfl⟩⟩⟩
        · exact absurd ((h.overflow o).mpr hstops) (hoverflow o)

namespace MemoryStore

theorem answered_unfiltered (hfilter : request.filter = none) :
    request.Answered rows (.ok (rows.filter request.Covers)) := by
  have hnever (failure : Failure EvalError) : ¬ request.StopsAt rows failure := by
    intro hstops
    obtain ⟨row, -, -, hjudges⟩ := hstops.exists_judges
    cases (Request.judges_unfiltered_iff hfilter).mp hjudges
  have hselects : rows.filter request.Selects = rows.filter request.Covers := by
    simp [Request.selects_unfiltered_iff hfilter]
  refine ⟨fun kept => ?_, fun text reason => ?_, fun o => iff_of_false error_ne_ok.symm (hnever _)⟩
  · simp [hselects, Request.Readable, Request.judges_unfiltered_iff hfilter, hfilter, eq_comm]
  · exact iff_of_false error_ne_ok.symm (by simp [hfilter])

theorem answered_unreadable {e : Filter.ParseError} (hfilter : request.filter = some text)
    (hparse : Filter.parse text = .error e) :
    request.Answered rows (Run.fail (.invalidFilter text e.message)) := by
  have hnever (failure : Failure EvalError) : ¬ request.StopsAt rows failure := by
    intro hstops
    obtain ⟨row, -, -, hjudges⟩ := hstops.exists_judges
    exact Request.not_judges hfilter hparse hjudges
  refine ⟨fun kept => ?_, fun text' reason => ⟨fun h => ?_, ?_⟩, fun o => ?_⟩
  · exact iff_of_false error_ne_ok fun h => Request.not_readable hfilter hparse h.1
  · cases h
    exact ⟨hfilter, .inl ⟨e, hparse, rfl⟩⟩
  · rintro ⟨htext', ⟨e', he', rfl⟩ | ⟨cause, hstops, -⟩⟩
    · cases hfilter.symm.trans htext'
      cases hparse.symm.trans he'
      rfl
    · exact absurd hstops (hnever _)
  · exact iff_of_false (by simp [Run.fail]) (hnever _)

theorem answered_readable (hfilter : request.filter = some text) (hparse : Filter.parse text = .ok filter) :
    request.Answered rows (Run.mapError (fun e => .invalidFilter text e.message)
      (accepted filter (rows.filter request.Covers))) := by
  have hreadable := Request.readable_of_parse hfilter hparse
  refine ⟨fun kept => ?_, fun text' reason => ?_, fun o => ?_⟩
  · rw [Run.mapError_eq_ok_iff, accepted_covered_eq_ok_iff hfilter hparse, and_iff_right hreadable]
  · rw [Run.mapError_eq_fail_iff]
    constructor
    · rintro ⟨cause, haccepted, heq⟩
      cases heq
      exact ⟨hfilter, .inr ⟨cause, (accepted_covered_eq_error_iff hfilter hparse).mp haccepted, rfl⟩⟩
    · rintro ⟨htext', ⟨e, he, -⟩ | ⟨cause, hstops, rfl⟩⟩
      · cases hfilter.symm.trans htext'
        cases hparse.symm.trans he
      · cases hfilter.symm.trans htext'
        exact ⟨cause, (accepted_covered_eq_error_iff hfilter hparse).mpr hstops, rfl⟩
  · rw [Run.mapError_eq_overflow_iff, accepted_covered_eq_error_iff hfilter hparse]

/-- **What the rows of a table are filtered to.** -/
theorem filtered_answered (request : Request) (rows : List Value) :
    request.Answered rows (filtered request.filter (rows.filter (inPartition request.partition))) := by
  rw [request.filter_inPartition]
  rcases request.filter_cases with hfilter | ⟨text, e, hfilter, hparse⟩ | ⟨text, filter, hfilter, hparse⟩
  · simpa only [filtered, hfilter] using answered_unfiltered hfilter
  · simpa only [filtered, hfilter, hparse] using answered_unreadable hfilter hparse
  · simpa only [filtered, hfilter, hparse] using answered_readable hfilter hparse

theorem filtered_ne_noSuchTable (filter : Option String) (rows : List Value) (name : String) :
    filtered filter rows ≠ Run.fail (.noSuchTable name) := by
  unfold filtered
  split
  next => exact error_ne_ok.symm
  next text =>
    split
    next => simp [Run.fail]
    next filter =>
      intro h
      obtain ⟨cause, -, hcause⟩ := Run.mapError_eq_fail_iff.mp h
      cases hcause

theorem rows_eq_noSuchTable_iff {tables : Fields (List Value)} {name : String} :
    MemoryStore.rows tables request = Run.fail (.noSuchTable name) ↔
      Fields.get? tables request.table = none ∧ name = request.table := by
  rw [MemoryStore.rows]
  cases Fields.get? tables request.table with
  | none => simp [Run.fail, eq_comm]
  | some rows => exact iff_of_false (filtered_ne_noSuchTable _ _ _) (by simp)

theorem rows_answered {tables : Fields (List Value)} (h : Fields.get? tables request.table = some rows) :
    request.Answered rows (MemoryStore.rows tables request) := by
  rw [MemoryStore.rows, h]
  exact filtered_answered request rows

/-- Rows outside of the partition do not matter. -/
theorem rows_congr {tables tables' : Fields (List Value)}
    (h : (Fields.get? tables request.table).map (·.filter request.Covers) =
      (Fields.get? tables' request.table).map (·.filter request.Covers)) :
    MemoryStore.rows tables request = MemoryStore.rows tables' request := by
  rw [MemoryStore.rows, MemoryStore.rows]
  cases hrows : Fields.get? tables request.table with
  | none =>
    cases hrows' : Fields.get? tables' request.table with
    | none => rfl
    | some rows' => simp [hrows, hrows'] at h
  | some rows =>
    cases hrows' : Fields.get? tables' request.table with
    | none => simp [hrows, hrows'] at h
    | some rows' =>
      have hcovered : rows.filter request.Covers = rows'.filter request.Covers := by simpa [hrows, hrows'] using h
      simp only [request.filter_inPartition, hcovered]

/-- **A store answers with the rows that a request selects**, unless the table is missing or the filter is
at fault, or the filter overflows on a row of the partition before that. It notes every request and keeps
its tables. Rows outside of the partition that is asked for do not matter. -/
theorem retrieve_selects (store : MemoryStore) (request : Request) :
    (store.retrieve request).2 = { store with requests := store.requests ++ [request] } ∧
      (∀ name, (store.retrieve request).1 = Run.fail (.noSuchTable name) ↔
        Fields.get? store.tables request.table = none ∧ name = request.table) ∧
      (∀ rows, Fields.get? store.tables request.table = some rows →
        request.Answered rows (store.retrieve request).1 ∧
          ((∀ o, (store.retrieve request).1 ≠ .error (.overflow o)) →
            ((∃ text reason, (store.retrieve request).1 = Run.fail (.invalidFilter text reason)) ↔
              ¬ request.Readable ∨
                ∃ row ∈ rows, request.Covers row ∧ ∃ cause, request.Judges row (Run.fail cause)))) ∧
      ∀ other : MemoryStore, (Fields.get? other.tables request.table).map (·.filter request.Covers) =
          (Fields.get? store.tables request.table).map (·.filter request.Covers) →
        (other.retrieve request).1 = (store.retrieve request).1 := by
  refine ⟨rfl, fun name => rows_eq_noSuchTable_iff, fun rows hrows => ?_, fun other h => rows_congr h⟩
  have hanswered : request.Answered rows (store.retrieve request).1 := rows_answered hrows
  exact ⟨hanswered, hanswered.invalidFilter_iff⟩

/-- The row of the other partition would stop the filter. -/
theorem retrieve_selects_partition :
    let here : Value := .object [("PartitionKey", .str "nl"), ("age", .int 36)]
    let there : Value := .object [("PartitionKey", .str "uk"), ("age", .str "old")]
    let request : Request := ⟨"people", some "-age lt 0", some "nl"⟩
    let store : MemoryStore := { tables := [("people", [there, here, .null, here])] }
    Fields.get? store.tables request.table = some [there, here, .null, here] ∧
      request.Answered [there, here, .null, here] (store.retrieve request).1 ∧
        ∃ kept, (store.retrieve request).1 = .ok kept ∧
          kept = [there, here, .null, here].filter request.Selects ∧ kept.length = 2 := by
  intro here there request store
  have hanswered := ((retrieve_selects store request).2.2.1 _ rfl).1
  obtain ⟨kept, hkept, hlength⟩ : ∃ kept, (store.retrieve request).1 = .ok kept ∧ kept.length = 2 := by
    decide +kernel
  exact ⟨rfl, hanswered, kept, hkept, ((hanswered.selected kept).mp hkept).2.2, hlength⟩

/-- The filter has no value on a row that it should answer for: the sum overflows. -/
theorem retrieve_overflow_shows :
    let row : Value := .object [("a", .int 9223372036854775807),
      ("b", .float (Number.ofDecimal false 7922816251426433 13))]
    let store : MemoryStore := { tables := [("t", [row])] }
    (store.retrieve ⟨"t", some "a + b gt 0", none⟩).1 = .error (.overflow .addition) := by
  decide +kernel

end MemoryStore

end RowQuery
