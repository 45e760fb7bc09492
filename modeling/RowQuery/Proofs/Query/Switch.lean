import RowQuery.Proofs.PushDown.Compiled
import RowQuery.Proofs.Query.Built
import RowQuery.Proofs.Query.Residual
import RowQuery.Proofs.Store.Selection
import RowQuery.Query.Answer

/-!
# The push-down switch

A query over a table in memory gives the same rows whether its where-clause runs at the store or is
tested on the rows that come back (`toList_pushdown`). The conditions are collected in `Query.Movable`,
and `switch_shows` has tables that tell the two apart where one of them fails.
-/

namespace RowQuery

variable {q : Query} {f : Lambda} {rows : List Value} {row : Value} {store : MemoryStore}

/-! ## Rows that the store accepts -/

/-- The filter accepts the rows that meet the predicate. -/
theorem accepts_eq_holds {filter : Filter.Expr} (hf : ∃ v, f.call row = .ok v)
    (h : ∀ v, f.call row = .ok v → filter.eval row = .ok v) :
    filter.accepts row = .ok (holds (some f) row) := by
  obtain ⟨v, hv⟩ := hf
  have hholds : holds (some f) row = v.truthy := by
    rw [holds, passes, Lambda.test, hv]
    rfl
  rw [Filter.Expr.accepts, h v hv, hholds]
  rfl

/-! ## Where-clauses that can be moved -/

namespace Query

/-- Rows of a query before any of its clauses. -/
def unfiltered (q : Query) (store : MemoryStore) : List Value :=
  match q.source with
  | .values rows => rows
  | .table name partition =>
    match MemoryStore.rows store.tables ⟨name, none, partition⟩ with
    | .ok rows => rows
    | .error _ => []

/-- A where-clause can be tested at the store as well as here. -/
structure Movable (q : Query) (f : Lambda) (rows : List Value) : Prop where
  /-- Filters have no strict comparison. -/
  loose : f.body.everywhere Lambda.Expr.isLoose = true
  writable : f.body.everywhere Lambda.Expr.isWritable = true
  noTrailingComma : f.hasTrailingComma = false
  /-- Rows that the store leaves out cannot fail to be sorted here. -/
  keys : ∀ k ∈ q.order, k.key.Answers rows
  ordered : KeysOrder q.order rows
  /-- The store tests every row. A row on which the test fails must be reached here as well, and the
  test must fail here as well. -/
  failures : f.Answers rows ∨
    q.take = none ∧ q.takeWhile = none ∧
      (∀ row ∈ rows, (∀ v, f.call row ≠ .ok v) → holds q.ofType row = true) ∧
        f.body.everywhere Lambda.Expr.isBound = true ∧
          ∀ row ∈ rows, row = .null ∨ ∃ fields, row = .object fields

end Query

/-! ## Outcomes of a query over a table in memory -/

/-- A query with push-down switched on or off. -/
def Query.withPushdown (q : Query) (b : Bool) : Query :=
  { q with pushdown := b }

theorem scan_pushdown (residual : Option Lambda) (b : Bool) (s : Scan) :
    (q.withPushdown b).scan residual s rows = q.scan residual s rows := by
  induction rows generalizing s with
  | nil => rfl
  | cons row rest ih =>
    have hfate : (q.withPushdown b).fate residual s row = q.fate residual s row := rfl
    rw [Query.scan, Query.scan, hfate]
    simp only [ih]
    rfl

theorem shape_pushdown (residual : Option Lambda) (b : Bool) :
    (q.withPushdown b).shape residual rows = q.shape residual rows := by
  have horder : (q.withPushdown b).order = q.order := rfl
  have htake : (q.withPushdown b).take = q.take := rfl
  have hstart : Scan.start (q.withPushdown b) = Scan.start q := rfl
  simp only [Query.shape, horder, htake, hstart, scan_pushdown]

/-- Rows of a query over tables in memory, or the failure. -/
def Query.outcome (q : Query) (store : MemoryStore) : Run QueryError (List Value) :=
  ((q.toList : QueryM MemoryStore (List Value)).run.run store).1

theorem outcome_eq {plan : Plan} (hplan : q.plan = .ok plan) :
    q.outcome store = (do
      let rows ← ((plan.fetch : QueryM MemoryStore (List Value)).run.run store).1
      Run.mapError .evaluation (q.shape plan.residual rows)) := by
  rw [Query.outcome, toList_eq hplan rfl]
  rfl

/-- The plan is all that the switch can change. -/
theorem outcome_congr {b c : Bool} (h : (q.withPushdown b).plan = (q.withPushdown c).plan) :
    (q.withPushdown b).outcome store = (q.withPushdown c).outcome store := by
  cases hplan : (q.withPushdown b).plan with
  | ok plan =>
    rw [outcome_eq hplan, outcome_eq (h.symm.trans hplan)]
    simp only [shape_pushdown]
  | error e =>
    have herror : ∀ q' : Query, q'.plan = .error e → q'.outcome store = .error (.error e) := by
      intro q' hq'
      rw [Query.outcome, toList_of_plan_error hq']
    rw [herror _ hplan, herror _ (h.symm.trans hplan)]

/-! ## Requests for a table -/

variable {name text : String} {partition : Option String}

theorem outcome_table {filter : Option String} {residual : Option Lambda}
    (hplan : q.plan = .ok ⟨.inl ⟨name, filter, partition⟩, residual⟩) :
    q.outcome store = (do
      let rows ← Run.mapError .store (MemoryStore.rows store.tables ⟨name, filter, partition⟩)
      Run.mapError .evaluation (q.shape residual rows)) :=
  outcome_eq hplan

theorem rows_filtered {filter : Option String} :
    MemoryStore.rows store.tables ⟨name, filter, partition⟩ = (do
      MemoryStore.filtered filter (← MemoryStore.rows store.tables ⟨name, none, partition⟩)) := by
  rw [MemoryStore.rows, MemoryStore.rows]
  cases Fields.get? store.tables name <;> rfl

/-- Either the switch does not change the plan, or the where-clause is moved to the store. -/
theorem plan_cases (hbuilt : q.Built) :
    (q.withPushdown true).plan = (q.withPushdown false).plan ∨
      ∃ f name partition text, q.filter = some f ∧ PushDown.isEligible f = true ∧
        PushDown.compile f = .ok text ∧ q.source = .table name partition ∧
        (q.withPushdown true).plan =
          .ok ⟨.inl ⟨name, some text, partition⟩, none⟩ ∧
        (q.withPushdown false).plan =
          .ok ⟨.inl ⟨name, none, partition⟩, some f⟩ := by
  cases hjoins : q.joins with
  | cons join joins => exact .inl (by simp only [Query.withPushdown, Query.plan, hjoins])
  | nil =>
    cases hsource : q.source with
    | values rows => exact .inl (by simp only [Query.withPushdown, Query.plan, hjoins, hsource])
    | table name partition =>
      cases hfilter : q.filter with
      | none =>
        exact .inl (by simp only [Query.withPushdown, Query.plan, Query.pushed, hjoins, hsource, hfilter])
      | some f =>
        cases heligible : PushDown.isEligible f with
        | false =>
          refine .inl ?_
          simp only [Query.withPushdown, Query.plan, Query.pushed, hjoins, hsource, hfilter, heligible,
            Bool.and_false]
        | true =>
          obtain ⟨source, hparse⟩ := hbuilt.filter_parses hfilter
          obtain ⟨text, hcompile, -⟩ := PushDown.compile_of_eligible hparse heligible
          refine .inr ⟨f, name, partition, text, rfl, heligible, hcompile, rfl, ?_, ?_⟩
          · simp only [Query.withPushdown, Query.plan, Query.pushed, hjoins, hsource, hfilter,
              heligible, hcompile]
            rfl
          · simp only [Query.withPushdown, Query.plan, Query.pushed, hjoins, hsource, hfilter]
            rfl

/-! ## The two runs -/

/-- Where the predicate has a value for every row, the store returns the rows that meet it. -/
theorem filtered_of_answers {text : String} {filter : Filter.Expr} (hfilter : Filter.parse text = .ok filter)
    (hagrees : ∀ row v, f.call row = .ok v → filter.eval row = .ok v) (hf : f.Answers rows) :
    MemoryStore.filtered (some text) rows = .ok (rows.filter (holds (some f))) := by
  have haccepted := MemoryStore.accepted_eq fun row hrow =>
    accepts_eq_holds (hf row hrow) (hagrees row)
  simp only [MemoryStore.filtered, hfilter, haccepted]
  rfl

theorem fails_of_not_answers (hf : ¬ f.Answers rows) :
    ∃ row ∈ rows, ∃ e, f.call row = .error e := by
  simp only [Lambda.Answers, not_forall] at hf
  obtain ⟨row, hrow, hf⟩ := hf
  refine ⟨row, hrow, ?_⟩
  cases hcall : f.call row with
  | error e => exact ⟨e, rfl⟩
  | ok v => exact absurd ⟨v, hcall⟩ hf

/-- Where the predicate fails on a row, so does the request. -/
theorem filtered_of_fails {text : String} {filter : Filter.Expr} (hfilter : Filter.parse text = .ok filter)
    (hagrees : ∀ row ∈ rows, filter.eval row = f.call row) (hf : ¬ f.Answers rows) :
    ∃ e, MemoryStore.filtered (some text) rows = .error e := by
  obtain ⟨row, hrow, e, he⟩ := fails_of_not_answers hf
  have haccepts : filter.accepts row = .error e := by
    rw [Filter.Expr.accepts, hagrees row hrow, he]
    rfl
  obtain ⟨e', he'⟩ := MemoryStore.accepted_eq_error hrow haccepts
  simp only [MemoryStore.filtered, hfilter, he']
  exact ⟨_, rfl⟩

theorem shape_fails (hkeys : ∀ k ∈ q.order, k.key.Answers rows)
    (htype : ∀ g ∈ q.ofType, g.Answers rows)
    (hreached : ∀ row ∈ rows, (∀ v, f.call row ≠ .ok v) → holds q.ofType row = true)
    (htake : q.take = none) (htakeWhile : q.takeWhile = none) (hf : ¬ f.Answers rows) :
    ∃ e, q.shape (some f) rows = .error e := by
  obtain ⟨sorted, hsorted, hperm⟩ := sortRows_perm hkeys
  have hsub : ∀ row ∈ sorted, row ∈ rows := fun _ => hperm.mem_iff.mp
  have hfails : ¬ f.Answers sorted := fun h => hf (h.of_subset fun _ => hperm.mem_iff.mpr)
  obtain ⟨e, he⟩ := scan_fails (fun g hg => (htype g hg).of_subset hsub)
    (fun row hrow => hreached row (hsub row hrow)) htake htakeWhile hfails (Scan.start q)
  refine ⟨e, ?_⟩
  rw [Query.shape, hsorted, ok_bind, htake, if_neg (by simp), he]

/-- **The switch does not show**: a built query over a table in memory returns the same rows whether
its where-clause runs at the store or not, provided that the clause can be moved. -/
theorem toList_pushdown (hbuilt : q.Built)
    (hmovable : ∀ f ∈ q.filter, PushDown.isEligible f = true → q.Movable f (q.unfiltered store))
    (result : List Value) :
    (q.withPushdown true).outcome store = .ok result ↔
      (q.withPushdown false).outcome store = .ok result := by
  rcases plan_cases hbuilt with hsame |
    ⟨f, name, partition, text, hfilter, heligible, hcompile, hsource, hon, hoff⟩
  · rw [outcome_congr hsame]
  have hmove := hmovable f hfilter heligible
  obtain ⟨source, hparse⟩ := hbuilt.filter_parses hfilter
  obtain ⟨text', hcompile', houtcome, haskable, p, hparams⟩ :=
    PushDown.compile_of_eligible hparse heligible
  rw [hcompile] at hcompile'
  cases hcompile'
  rw [hmove.noTrailingComma] at houtcome
  rw [outcome_table hon, outcome_table hoff, rows_filtered]
  simp only [shape_pushdown]
  cases hrows : MemoryStore.rows store.tables ⟨name, none, partition⟩ with
  | error e => rfl
  | ok rows =>
    have hunfiltered : q.unfiltered store = rows := by
      simp only [Query.unfiltered, hsource, hrows]
    rw [hunfiltered] at hmove
    have htype : ∀ g ∈ q.ofType, g.Answers rows := fun g hg => hbuilt.ofType_answers hg rows
    by_cases hf : f.Answers rows
    · have hvalues := PushDown.image_of_call hparams haskable hmove.loose hmove.writable
      rw [ok_bind, filtered_of_answers houtcome hvalues hf]
      simp only [Run.mapError, ok_bind, shape_filter hmove.keys hmove.ordered htype hf]
    · obtain ⟨htake, htakeWhile, hreached, hbound, hrecords⟩ := hmove.failures.resolve_left hf
      have hsame : ∀ row ∈ rows, (PushDown.image f.body).eval row = f.call row := by
        intro row hrow
        rw [PushDown.call_eq_eval hparams]
        exact ((PushDown.agrees_image True hparams haskable hmove.loose hmove.writable (fun _ => hbound)
          fun _ => hrecords row hrow).2 trivial).symm
      obtain ⟨e, he⟩ := filtered_of_fails houtcome hsame hf
      obtain ⟨e', he'⟩ := shape_fails hmove.keys htype hreached htake htakeWhile hf
      rw [ok_bind, he]
      simp only [Run.mapError, ok_bind, he']
      exact iff_of_false error_ne_ok error_ne_ok

/-- Elders by name: every person has a name and an age. -/
theorem toList_pushdown_elders :
    let store : MemoryStore := { tables := [("people", [
      .object [("name", .str "Bo"), ("age", .int 52)], .object [("name", .str "Al"), ("age", .int 9)],
      .object [("name", .str "Al"), ("age", .int 61)]])] }
    ∃ q q' : Query, (Query.ofTable "people" none).withFilter "r => r.age > 30" = .ok q ∧
      q.orderBy "r => r.name" .descending none = .ok q' ∧ ∀ result,
        (({ q' with take := some 1 } : Query).withPushdown true).outcome store = .ok result ↔
          (({ q' with take := some 1 } : Query).withPushdown false).outcome store = .ok result := by
  intro store
  obtain ⟨q, hq, q', hq', hkeys, hordered, hfilter⟩ : ∃ q : Query,
      (Query.ofTable "people" none).withFilter "r => r.age > 30" = .ok q ∧
        ∃ q', q.orderBy "r => r.name" .descending none = .ok q' ∧
          (∀ k ∈ q'.order, k.key.Answers (q'.unfiltered store)) ∧
          KeysOrder q'.order (q'.unfiltered store) ∧
          ∀ f ∈ q'.filter, f.body.everywhere Lambda.Expr.isLoose = true ∧
            f.body.everywhere Lambda.Expr.isWritable = true ∧ f.hasTrailingComma = false ∧
              f.Answers (q'.unfiltered store) := by decide +kernel
  have hbuilt : Query.Built { q' with take := some 1 } :=
    (((Query.Built.table "people" none).filter hq).orderBy hq').take 1
  refine ⟨q, q', hq, hq', toList_pushdown hbuilt fun f hf _ => ?_⟩
  obtain ⟨hloose, hwritable, hcomma, hanswers⟩ := hfilter f hf
  exact ⟨hloose, hwritable, hcomma, hkeys, hordered, .inl hanswers⟩

/-! ## The conditions are needed -/

/-- A table of some rows shows whether a query's where-clause runs at the store. -/
def Query.SwitchShows (query : Except QueryError Query) (rows : List Value) : Prop :=
  ∃ q, query = .ok q ∧ ∃ result, ¬((q.withPushdown true).outcome { tables := [("t", rows)] } = .ok result ↔
    (q.withPushdown false).outcome { tables := [("t", rows)] } = .ok result)

/-- Two outcomes differ if one is a failure, or if the texts of their rows do. -/
def differ : Run QueryError (List Value) → Run QueryError (List Value) → Bool
  | .ok rows, .ok rows' => rows.map Value.canonical ≠ rows'.map Value.canonical
  | .ok _, .error _ | .error _, .ok _ => true
  | .error _, .error _ => false

theorem exists_of_differ {x y : Run QueryError (List Value)} (h : differ x y = true) :
    ∃ result, ¬(x = .ok result ↔ y = .ok result) := by
  cases x with
  | ok rows =>
    refine ⟨rows, fun hiff => ?_⟩
    rw [hiff.mp rfl] at h
    simp [differ] at h
  | error e =>
    cases y with
    | ok rows => exact ⟨rows, fun hiff => nomatch hiff.mpr rfl⟩
    | error e' => cases h

/-- A comparison in which 1 comes before 2, 2 before 3 and 3 before 1. -/
def circular (a b : Value) : Ordering :=
  if (a.looseEq (.int 1) && b.looseEq (.int 2)) || (a.looseEq (.int 2) && b.looseEq (.int 3)) ||
      (a.looseEq (.int 3) && b.looseEq (.int 1)) then .lt
  else .gt

theorem Query.SwitchShows.of_differ {query : Except QueryError Query}
    (h : ∃ q, query = .ok q ∧ differ ((q.withPushdown true).outcome { tables := [("t", rows)] })
      ((q.withPushdown false).outcome { tables := [("t", rows)] }) = true) :
    Query.SwitchShows query rows := by
  obtain ⟨q, hq, hdiffer⟩ := h
  exact ⟨q, hq, exists_of_differ hdiffer⟩

/-- Whether the filter that a query sends to the store fails on some row. -/
def Query.failsAtStore (q : Query) (rows : List Value) : Bool :=
  match (q.withPushdown true).plan with
  | .ok ⟨.inl ⟨name, some text, none⟩, _⟩ =>
    match Filter.parse text with
    | .ok filter => name = "t" && rows.any fun row => !(filter.accepts row).isOk
    | .error _ => false
  | _ => false

theorem outcome_of_failsAtStore (h : q.failsAtStore rows = true) :
    ∃ e, (q.withPushdown true).outcome { tables := [("t", rows)] } = .error e := by
  unfold Query.failsAtStore at h
  split at h
  next name text residual hplan =>
    split at h
    next filter hfilter =>
      obtain ⟨hname, hany⟩ := Bool.and_eq_true_iff.mp h
      obtain rfl := of_decide_eq_true hname
      obtain ⟨row, hrow, hfails⟩ := List.any_eq_true.mp hany
      have hstore : MemoryStore.rows [("t", rows)] ⟨"t", none, none⟩ = .ok rows := by
        have hall : rows.filter (MemoryStore.inPartition none) = rows :=
          List.filter_eq_self.mpr fun _ _ => rfl
        exact congrArg Except.ok hall
      rw [outcome_table hplan, rows_filtered, hstore, ok_bind]
      cases haccepts : filter.accepts row with
      | ok b => rw [haccepts] at hfails; cases hfails
      | error e =>
        obtain ⟨e', he'⟩ := MemoryStore.accepted_eq_error hrow haccepts
        simp only [MemoryStore.filtered, hfilter, he']
        exact ⟨_, rfl⟩
    next => cases h
  next => cases h

theorem Query.SwitchShows.of_failsAtStore {query : Except QueryError Query}
    (h : ∃ q, query = .ok q ∧ q.failsAtStore rows = true ∧
      ((q.withPushdown false).outcome { tables := [("t", rows)] }).isOk = true) :
    Query.SwitchShows query rows := by
  obtain ⟨q, hq, hstore, hhere⟩ := h
  obtain ⟨e, he⟩ := outcome_of_failsAtStore hstore
  refine ⟨q, hq, exists_of_differ ?_⟩
  rw [he]
  cases hoff : (q.withPushdown false).outcome { tables := [("t", rows)] } with
  | ok result => rfl
  | error e' => rw [hoff] at hhere; cases hhere

/-- **The conditions are needed.** The switch shows with a strict comparison, with a name that nothing
binds, with a record that is no object, with a record behind the end of the window that fails the test,
with a sort key that fails on a record that the where-clause refuses, and with a comparison that goes
round in circles. -/
theorem switch_shows :
    Query.SwitchShows ((Query.ofTable "t" none).withFilter "r => r.a === 0")
        [.object [("a", .float (Number.ofInt64 0))]] ∧
      Query.SwitchShows ((Query.ofTable "t" none).withFilter "r => r.a == b")
        [.object [("a", .int 1), ("b", .int 1)]] ∧
      Query.SwitchShows ((Query.ofTable "t" none).withFilter "r => r.a == null") [.int 1] ∧
      Query.SwitchShows
        (do
          let q ← (Query.ofTable "t" none).withFilter "r => -r.a < 2"
          return { q with take := some 1 })
        [.object [("a", .int 1)], .object [("a", .str "x")]] ∧
      Query.SwitchShows
        (do
          let q ← (Query.ofTable "t" none).withFilter "r => -r.a < 2"
          q.withTakeWhile "r => r.a == 2")
        [.object [("a", .int 1)], .object [("a", .str "x")]] ∧
      Query.SwitchShows
        (do
          let q ← (Query.ofTable "t" none).withFilter "r => r.a == 1"
          q.orderBy "r => -r.b" .ascending none)
        [.object [("b", .str "x")]] ∧
      Query.SwitchShows
        (do
          let q ← (Query.ofTable "t" none).withFilter "r => r.a != 2"
          q.orderBy "r => r.a" .ascending (some circular))
        [.object [("a", .int 1)], .object [("a", .int 2)], .object [("a", .int 3)]] := by
  refine ⟨?strict, ?free, ?noObject, ?take, ?takeWhile, ?key, ?circular⟩
  case take | takeWhile => exact .of_failsAtStore (by decide +kernel)
  all_goals exact .of_differ (by decide +kernel)

end RowQuery
