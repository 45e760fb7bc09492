import RowQuery.Proofs.Query.Switch

/-!
# Services that filter as the where-clause does

A query over any service gives the same outcome with push-down switched on or off, if the service answers
a filtered request with those rows of its unfiltered answer that meet the where-clause, and the sort keys
are total preorders (`execute_pushdown`). A store in memory is such a service
(`MemoryStore.retrieve_filtered`).
-/

namespace RowQuery

/-! ## Comparisons that are total preorders -/

section Preorder

variable {α β : Type} {cmp cmp' : α → α → Ordering} {xs : List α}

/-- A comparison is a total preorder on some elements. -/
def PreordersOn (cmp : α → α → Ordering) (xs : List α) : Prop :=
  Std.TransCmp fun a b : { x // x ∈ xs } => cmp a b

theorem preordersOn_iff : PreordersOn cmp xs ↔
    (∀ a ∈ xs, ∀ b ∈ xs, cmp a b = (cmp b a).swap) ∧
      ∀ a ∈ xs, ∀ b ∈ xs, ∀ c ∈ xs, (cmp a b).isLE → (cmp b c).isLE → (cmp a c).isLE := by
  constructor
  · intro (h : Std.TransCmp _)
    exact ⟨fun a ha b hb => h.eq_swap (a := ⟨a, ha⟩) (b := ⟨b, hb⟩),
      fun a ha b hb c hc => h.isLE_trans (a := ⟨a, ha⟩) (b := ⟨b, hb⟩) (c := ⟨c, hc⟩)⟩
  · rintro ⟨hswap, htrans⟩
    exact { eq_swap := fun {a b} => hswap a a.2 b b.2
            isLE_trans := fun {a b c} => htrans a a.2 b b.2 c c.2 }

instance : Decidable (PreordersOn cmp xs) :=
  decidable_of_iff _ preordersOn_iff.symm

theorem preordersOn_map {f : β → α} {ys : List β} :
    PreordersOn cmp (ys.map f) ↔ PreordersOn (fun a b => cmp (f a) (f b)) ys := by
  simp only [preordersOn_iff, List.forall_mem_map]

/-- Comparing by one preorder, and by another where the first does not decide. -/
theorem PreordersOn.then (h : PreordersOn cmp xs) (h' : PreordersOn cmp' xs) :
    PreordersOn (fun a b => (cmp a b).then (cmp' a b)) xs := by
  have hfirst : Std.TransCmp fun a b : { x // x ∈ xs } => cmp a b := h
  have hsecond : Std.TransCmp fun a b : { x // x ∈ xs } => cmp' a b := h'
  exact inferInstanceAs (Std.TransCmp (compareLex _ _))

theorem PreordersOn.ordersOn (h : PreordersOn cmp xs) : OrdersOn cmp xs where
  total a ha b hb := by
    rw [MayFollow, MayFollow, (preordersOn_iff.mp h).1 a ha b hb]
    cases cmp b a <;> decide
  trans a ha b hb c hc hab hbc := by
    have hcmp : Std.TransCmp fun a b : { x // x ∈ xs } => cmp a b := h
    have := hcmp.isGE_trans (a := ⟨a, ha⟩) (b := ⟨b, hb⟩) (c := ⟨c, hc⟩)
      (Ordering.isGE_iff_ne_lt.mpr hab) (Ordering.isGE_iff_ne_lt.mpr hbc)
    exact Ordering.isGE_iff_ne_lt.mp this

end Preorder

/-! ## Sort keys, one by one -/

variable {order : List OrderKey} {rows : List Value} {row : Value}

/-- Values of the sort keys of a row; null where a key fails. -/
def keysAt (order : List OrderKey) (row : Value) : List Value :=
  order.map fun k => projected (some k.key) row

theorem valuesOf_eq {vs : List Value} (h : OrderKey.valuesOf row order = .ok vs) :
    vs = keysAt order row := by
  induction order generalizing vs with
  | nil => cases h; rfl
  | cons k rest ih =>
    obtain ⟨v, hv, h⟩ := bind_eq_ok.mp h
    obtain ⟨tail, htail, h⟩ := bind_eq_ok.mp h
    cases h
    have hvalue : projected (some k.key) row = v := by rw [projected, hv]
    rw [ih htail, keysAt, keysAt, List.map_cons, hvalue]

theorem keyed_eq {ks : List Keyed} (h : keyed order rows = .ok ks) :
    ks = rows.map fun row => ⟨keysAt order row, row⟩ := by
  induction rows generalizing ks with
  | nil => cases h; rfl
  | cons row rest ih =>
    obtain ⟨keys, tail, hkeys, htail, rfl⟩ := keyed_cons_eq_ok h
    rw [List.map_cons, ← ih htail, ← valuesOf_eq hkeys]

theorem preordersOn_compareAll
    (h : ∀ k ∈ order, PreordersOn k.compareKeys (rows.map (projected (some k.key)))) :
    PreordersOn (fun a b => OrderKey.compareAll order (keysAt order a) (keysAt order b)) rows := by
  induction order with
  | nil => exact preordersOn_iff.mpr ⟨fun _ _ _ _ => rfl, fun _ _ _ _ _ _ _ _ => rfl⟩
  | cons k rest ih =>
    have hfirst := preordersOn_map.mp (h k List.mem_cons_self)
    exact hfirst.then (ih fun k' hk' => h k' (List.mem_cons_of_mem k hk'))

/-- **Sort keys order the rows** if each of them is a total preorder on its values. -/
theorem KeysOrder.of_preorders
    (h : ∀ k ∈ order, PreordersOn k.compareKeys (rows.map (projected (some k.key)))) :
    KeysOrder order rows := by
  intro ks hks
  have hkeyed : PreordersOn (Keyed.compare order) (rows.map fun row => ⟨keysAt order row, row⟩) :=
    preordersOn_map.mpr (preordersOn_compareAll h)
  rw [keyed_eq hks]
  exact hkeyed.ordersOn

/-! ## Services -/

variable {σ : Type} [RowService σ] {q : Query} {f : Lambda} {store : σ} {selector : Option Lambda}

/-- A service can test a where-clause in front of the rest of a query, as far as the rows of `request`,
a request without filter, are concerned. -/
structure Query.Separable (q : Query) (f : Lambda) (request : Request) (store : σ) : Prop where
  /-- The filtered answer consists of those rows of the other one that meet the clause. -/
  filtered : ∀ text, PushDown.compile f = .ok text →
    (RowService.retrieve { request with filter := some text } store).1 =
      (RowService.retrieve request store).1.map (List.filter (holds (some f)))
  answers : ∀ rows, (RowService.retrieve request store).1 = .ok rows → f.Answers rows
  keys : ∀ rows, (RowService.retrieve request store).1 = .ok rows →
    ∀ k ∈ q.order, k.key.Answers rows ∧ PreordersOn k.compareKeys (rows.map (projected (some k.key)))

/-- The plan is all that the switch can change. -/
theorem execute_congr {b c : Bool} (h : (q.withPushdown b).plan = (q.withPushdown c).plan) :
    ((q.withPushdown b).execute selector : QueryM σ (List Value)).run.run store =
      ((q.withPushdown c).execute selector : QueryM σ (List Value)).run.run store := by
  cases hplan : (q.withPushdown b).plan with
  | ok plan =>
    rw [execute_eq hplan rfl, execute_eq (h.symm.trans hplan) rfl]
    simp only [shape_pushdown]
  | error e =>
    rw [Query.execute, Query.execute, ← h, hplan]
    rfl

/-- Outcome of a query whose plan is a request. -/
theorem execute_table {request : Request} {residual : Option Lambda}
    (hplan : q.plan = .ok ⟨.inl request, residual⟩) :
    ((q.execute selector : QueryM σ (List Value)).run.run store).1 = (do
      let rows ← Run.mapError .store (RowService.retrieve request store).1
      Run.mapError .evaluation do project selector (← q.shape residual rows)) := by
  rw [execute_eq hplan rfl]
  rfl

/-- **Filtering at the store commutes with the rest of the query**: the outcome is the same with push-down
on and off, whatever the other clauses are. -/
theorem execute_pushdown (hbuilt : q.Built)
    (hseparable : ∀ f ∈ q.filter, PushDown.isEligible f = true → ∀ name partition,
      q.source = .table name partition → q.Separable f ⟨name, none, partition⟩ store) :
    (((q.withPushdown true).execute selector : QueryM σ (List Value)).run.run store).1 =
      (((q.withPushdown false).execute selector : QueryM σ (List Value)).run.run store).1 := by
  rcases plan_cases hbuilt with hsame |
    ⟨f, name, partition, text, hfilter, heligible, hcompile, hsource, hon, hoff⟩
  · rw [execute_congr hsame]
  -- the plans differ: with push-down the clause is in the request, without it in the residual
  have hf := hseparable f hfilter heligible name partition hsource
  rw [execute_table hon, execute_table hoff, hf.filtered text hcompile]
  simp only [shape_pushdown]
  cases hrows : (RowService.retrieve ⟨name, none, partition⟩ store).1 with
  | error e => rfl
  | ok rows =>
    have hkeys := hf.keys rows hrows
    have hshape : q.shape none (rows.filter (holds (some f))) = q.shape (some f) rows :=
      shape_filter (fun k hk => (hkeys k hk).1) (.of_preorders fun k hk => (hkeys k hk).2)
        (fun g hg => hbuilt.ofType_answers hg rows) (hf.answers rows hrows)
    simp only [Except.map, Run.mapError, ok_bind, hshape]

/-! ## Tables in memory -/

/-- **A store in memory filters as the where-clause does**, if the clause can be written as a filter and
has a value for every row of the request. -/
theorem MemoryStore.retrieve_filtered {source : String} {request : Request} {store : MemoryStore}
    (hparse : Lambda.parse source = .ok f) (heligible : PushDown.isEligible f = true)
    (hloose : f.body.everywhere Lambda.Expr.isLoose = true)
    (hwritable : f.body.everywhere Lambda.Expr.isWritable = true) (hcomma : f.hasTrailingComma = false)
    (hrequest : request.filter = none)
    (hanswers : ∀ rows, (RowService.retrieve request store).1 = .ok rows → f.Answers rows)
    {text : String} (hcompile : PushDown.compile f = .ok text) :
    (RowService.retrieve { request with filter := some text } store).1 =
      (RowService.retrieve request store).1.map (List.filter (holds (some f))) := by
  obtain ⟨text', hcompile', houtcome, haskable, p, hparams⟩ :=
    PushDown.compile_of_eligible hparse heligible
  rw [hcompile] at hcompile'
  cases hcompile'
  rw [hcomma] at houtcome
  have hvalues := PushDown.image_of_call hparams haskable hloose hwritable
  have hunfiltered : (RowService.retrieve request store).1 =
      MemoryStore.rows store.tables ⟨request.table, none, request.partition⟩ := by
    rw [← hrequest]
    rfl
  have hfiltered : (RowService.retrieve { request with filter := some text } store).1 =
      MemoryStore.rows store.tables ⟨request.table, some text, request.partition⟩ := rfl
  rw [hfiltered, rows_filtered]
  rw [hunfiltered] at hanswers ⊢
  cases hrows : MemoryStore.rows store.tables ⟨request.table, none, request.partition⟩ with
  | error e => rfl
  | ok rows =>
    rw [ok_bind, filtered_of_answers houtcome hvalues (hanswers rows hrows)]
    rfl

/-- The youngest elder of each name but the first, by name: every person has a name and an age. -/
theorem execute_pushdown_elders :
    let people : List Value := [
      .object [("name", .str "Bo"), ("age", .int 52)], .object [("name", .str "Al"), ("age", .int 9)],
      .object [("name", .str "Cy"), ("age", .int 77)], .object [("name", .str "Al"), ("age", .int 61)],
      .object [("name", .str "Al"), ("age", .int 58)]]
    let store : MemoryStore := { tables := [("people", people)] }
    let elders : Except QueryError Query := do
      let q ← (Query.ofTable "people" none).withFilter "r => r.age > 30"
      let q ← q.withDistinct "r => r.name"
      let q ← q.orderBy "r => r.name" .descending none
      let q ← q.thenBy "r => r.age" .ascending none
      return { q with skip := some 1 }
    ∃ q f name, elders = .ok q ∧ q.Built ∧ q.source = .table name none ∧
      q.filter = some f ∧ PushDown.isEligible f = true ∧ q.Separable f ⟨name, none, none⟩ store ∧
        ∀ selector,
          (((q.withPushdown true).execute selector : QueryM MemoryStore (List Value)).run.run store).1 =
            (((q.withPushdown false).execute selector : QueryM MemoryStore (List Value)).run.run store).1 := by
  intro people store elders
  obtain ⟨q, hq, hfilter, hkeys⟩ : ∃ q, elders = .ok q ∧
      (∀ f ∈ q.filter, PushDown.isEligible f = true ∧ f.body.everywhere Lambda.Expr.isLoose = true ∧
        f.body.everywhere Lambda.Expr.isWritable = true ∧ f.hasTrailingComma = false ∧
          f.Answers people) ∧
      ∀ k ∈ q.order, k.key.Answers people ∧
        PreordersOn k.compareKeys (people.map (projected (some k.key))) := by decide +kernel
  have hrows : (RowService.retrieve ⟨"people", none, none⟩ store).1 = .ok people := rfl
  have hpeople : ∀ rows, (RowService.retrieve ⟨"people", none, none⟩ store).1 = .ok rows → rows = people :=
    fun rows h => Except.ok.inj (h.symm.trans hrows)
  obtain ⟨q₁, h₁, h⟩ := bind_eq_ok.mp hq
  obtain ⟨q₂, h₂, h⟩ := bind_eq_ok.mp h
  obtain ⟨q₃, h₃, h⟩ := bind_eq_ok.mp h
  obtain ⟨q₄, h₄, h⟩ := bind_eq_ok.mp h
  have hbuilt : q.Built := by
    cases h
    exact (((((Query.Built.table "people" none).filter h₁).distinct h₂).orderBy h₃).thenBy h₄).skip 1
  obtain ⟨f, hparse, h₁⟩ := bind_eq_ok.mp h₁
  obtain ⟨hsource, hf⟩ : q.source = .table "people" none ∧ q.filter = some f := by
    obtain ⟨name, -, h₂⟩ := bind_eq_ok.mp h₂
    obtain ⟨byName, -, h₃⟩ := bind_eq_ok.mp h₃
    obtain ⟨byAge, -, h₄⟩ := bind_eq_ok.mp h₄
    cases h₁; cases h₂; cases h₃; cases h₄; cases h
    exact ⟨rfl, rfl⟩
  obtain ⟨heligible, hloose, hwritable, hcomma, hanswers⟩ := hfilter f hf
  have hseparable : q.Separable f ⟨"people", none, none⟩ store :=
    { filtered := fun text => MemoryStore.retrieve_filtered (expression_eq_ok.mp hparse) heligible hloose
        hwritable hcomma rfl fun rows h => hpeople rows h ▸ hanswers
      answers := fun rows h => hpeople rows h ▸ hanswers
      keys := fun rows h => hpeople rows h ▸ hkeys }
  refine ⟨q, f, "people", hq, hbuilt, hsource, hf, heligible, hseparable, fun selector =>
    execute_pushdown hbuilt fun g hg _ table partition hsource' => ?_⟩
  obtain rfl : f = g := Option.some.inj (hf.symm.trans hg)
  cases hsource.symm.trans hsource'
  exact hseparable

end RowQuery
