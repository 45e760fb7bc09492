import Mathlib
import RowQuery.Proofs.Failure
import RowQuery.Query.Order

/-!
# Sorting rows

Sorting is insertion sort from the left and only moves rows (`stableSort_perm`, `sortRows_perm`). Where
the sort keys order the rows, rows that are left out before or after sorting make no difference
(`filter_stableSort`, `sortRows_filter`).
-/

namespace RowQuery

/-! ## Stable sorting -/

section StableSort

variable {α : Type} {cmp : α → α → Ordering} {x : α} {xs : List α}

/-- Whether the comparison lets the first element stand behind the second. -/
def MayFollow (cmp : α → α → Ordering) (a b : α) : Prop :=
  cmp a b ≠ .lt

instance : DecidableRel (MayFollow cmp) :=
  fun a b => inferInstanceAs (Decidable (cmp a b ≠ .lt))

theorem insertLast_eq : insertLast cmp x xs = xs.orderedInsert (MayFollow cmp) x := by
  induction xs with
  | nil => rfl
  | cons y rest ih =>
    rw [insertLast, List.orderedInsert_cons, ih]
    exact (ite_not (cmp x y = .lt) _ _).symm

theorem stableSort_eq : stableSort cmp xs = (xs.reverse.insertionSort (MayFollow cmp)).reverse := by
  have hinsert : (fun sorted x => insertLast cmp x sorted) =
      fun sorted x => sorted.orderedInsert (MayFollow cmp) x :=
    funext fun _ => funext fun _ => insertLast_eq
  rw [stableSort, hinsert, List.insertionSort, List.foldr_reverse]

theorem stableSort_perm : (stableSort cmp xs).Perm xs := by
  rw [stableSort_eq]
  exact (List.reverse_perm _).trans ((List.perm_insertionSort _ _).trans (List.reverse_perm _))

/-- A comparison orders some elements: any two one way or the other, and consistently. -/
structure OrdersOn (cmp : α → α → Ordering) (xs : List α) : Prop where
  total : ∀ a ∈ xs, ∀ b ∈ xs, MayFollow cmp a b ∨ MayFollow cmp b a
  trans : ∀ a ∈ xs, ∀ b ∈ xs, ∀ c ∈ xs, MayFollow cmp a b → MayFollow cmp b c → MayFollow cmp a c

instance : Decidable (OrdersOn cmp xs) :=
  decidable_of_iff ((∀ a ∈ xs, ∀ b ∈ xs, MayFollow cmp a b ∨ MayFollow cmp b a) ∧
      ∀ a ∈ xs, ∀ b ∈ xs, ∀ c ∈ xs, MayFollow cmp a b → MayFollow cmp b c → MayFollow cmp a c)
    ⟨fun ⟨htotal, htrans⟩ => ⟨htotal, htrans⟩, fun h => ⟨h.total, h.trans⟩⟩

theorem OrdersOn.of_subset {ys : List α} (h : OrdersOn cmp ys) (hsub : ∀ x ∈ xs, x ∈ ys) :
    OrdersOn cmp xs where
  total a ha b hb := h.total a (hsub a ha) b (hsub b hb)
  trans a ha b hb c hc := h.trans a (hsub a ha) b (hsub b hb) c (hsub c hc)

theorem OrdersOn.pairwise_insert (h : OrdersOn cmp (x :: xs)) (hxs : xs.Pairwise (MayFollow cmp)) :
    (xs.orderedInsert (MayFollow cmp) x).Pairwise (MayFollow cmp) := by
  induction xs with
  | nil => exact List.pairwise_singleton _ _
  | cons y rest ih =>
    obtain ⟨hy, hrest⟩ := List.pairwise_cons.mp hxs
    rw [List.orderedInsert_cons]
    split
    next hxy =>
      refine List.pairwise_cons.mpr ⟨fun z hz => ?_, hxs⟩
      rcases List.mem_cons.mp hz with rfl | hz'
      · exact hxy
      · exact h.trans x (by simp) y (by simp) z (by simp [hz']) hxy (hy z hz')
    next hxy =>
      have hwithout : OrdersOn cmp (x :: rest) := h.of_subset fun z hz => by
        rcases List.mem_cons.mp hz with rfl | hz' <;> simp [*]
      refine List.pairwise_cons.mpr ⟨fun z hz => ?_, ih hwithout hrest⟩
      rcases (List.mem_orderedInsert _).mp hz with rfl | hz'
      · exact (h.total z (by simp) y (by simp)).resolve_left hxy
      · exact hy z hz'

theorem OrdersOn.pairwise (h : OrdersOn cmp xs) :
    (xs.insertionSort (MayFollow cmp)).Pairwise (MayFollow cmp) := by
  induction xs with
  | nil => exact List.Pairwise.nil
  | cons x rest ih =>
    have hrest := ih (h.of_subset fun z => List.mem_cons_of_mem x)
    refine pairwise_insert (h.of_subset fun z hz => ?_) hrest
    rcases List.mem_cons.mp hz with rfl | hz'
    · exact List.mem_cons_self
    · exact List.mem_cons_of_mem x ((List.mem_insertionSort _).mp hz')

theorem orderedInsert_of_forall (h : ∀ y ∈ xs, MayFollow cmp x y) :
    xs.orderedInsert (MayFollow cmp) x = x :: xs := by
  cases xs with
  | nil => rfl
  | cons y rest => rw [List.orderedInsert_cons, if_pos (h y List.mem_cons_self)]

/-- An element finds its place no matter which others are left out. -/
theorem OrdersOn.filter_insert (h : OrdersOn cmp (x :: xs)) (hxs : xs.Pairwise (MayFollow cmp))
    (p : α → Bool) :
    (xs.orderedInsert (MayFollow cmp) x).filter p =
      if p x then (xs.filter p).orderedInsert (MayFollow cmp) x else xs.filter p := by
  induction xs with
  | nil => rw [List.orderedInsert_nil, List.filter_cons, List.filter_nil, List.orderedInsert_nil]
  | cons y rest ih =>
    obtain ⟨hy, hrest⟩ := List.pairwise_cons.mp hxs
    rw [List.orderedInsert_cons]
    split
    next hxy =>
      have hfollows : ∀ z ∈ (y :: rest).filter p, MayFollow cmp x z := fun z hz => by
        rcases List.mem_cons.mp (List.mem_of_mem_filter hz) with rfl | hz'
        · exact hxy
        · exact h.trans x (by simp) y (by simp) z (by simp [hz']) hxy (hy z hz')
      rw [orderedInsert_of_forall hfollows, List.filter_cons (x := x)]
    next hxy =>
      have hwithout : OrdersOn cmp (x :: rest) := h.of_subset fun z hz => by
        rcases List.mem_cons.mp hz with rfl | hz' <;> simp [*]
      rw [List.filter_cons, List.filter_cons, ih hwithout hrest]
      cases p y with
      | false => rfl
      | true =>
        simp only [if_true, List.orderedInsert_cons, if_neg hxy]
        split <;> rfl

theorem OrdersOn.filter_insertionSort (h : OrdersOn cmp xs) (p : α → Bool) :
    (xs.insertionSort (MayFollow cmp)).filter p =
      (xs.filter p).insertionSort (MayFollow cmp) := by
  induction xs with
  | nil => rfl
  | cons x rest ih =>
    have hrest : OrdersOn cmp rest := h.of_subset fun z => List.mem_cons_of_mem x
    have hsorted : OrdersOn cmp (x :: rest.insertionSort (MayFollow cmp)) :=
      h.of_subset fun z hz => by
        rcases List.mem_cons.mp hz with rfl | hz'
        · exact List.mem_cons_self
        · exact List.mem_cons_of_mem x ((List.mem_insertionSort _).mp hz')
    rw [List.insertionSort_cons, hsorted.filter_insert hrest.pairwise, ih hrest, List.filter_cons]
    split <;> rfl

/-- **Sorting and leaving out commute**, where the comparison orders the elements. -/
theorem OrdersOn.filter_stableSort (h : OrdersOn cmp xs) (p : α → Bool) :
    (stableSort cmp xs).filter p = stableSort cmp (xs.filter p) := by
  have hreverse : OrdersOn cmp xs.reverse := h.of_subset fun _ => List.mem_reverse.mp
  rw [stableSort_eq, stableSort_eq, List.filter_reverse, hreverse.filter_insertionSort,
    List.filter_reverse]

end StableSort

/-! ## Rows with their keys -/

/-- Whether an expression has a value for each of some rows. -/
def Lambda.Answers (f : Lambda) (rows : List Value) : Prop :=
  ∀ row ∈ rows, ∃ v, f.call row = .ok v

instance {f : Lambda} {rows : List Value} : Decidable (f.Answers rows) :=
  decidable_of_iff (∀ row ∈ rows, (f.call row).isOk = true) <| by
    refine forall₂_congr fun row _ => ?_
    cases f.call row <;> simp [Except.isOk, Except.toBool]

theorem Lambda.Answers.of_subset {f : Lambda} {rows more : List Value} (h : f.Answers more)
    (hsub : ∀ row ∈ rows, row ∈ more) : f.Answers rows :=
  fun row hrow => h row (hsub row hrow)

variable {order : List OrderKey} {rows sorted : List Value} {row : Value} {ks : List Keyed}

theorem valuesOf_eq_ok (h : ∀ k ∈ order, ∃ v, k.key.call row = .ok v) :
    ∃ vs, OrderKey.valuesOf row order = .ok vs := by
  induction order with
  | nil => exact ⟨[], rfl⟩
  | cons k rest ih =>
    obtain ⟨v, hv⟩ := h k List.mem_cons_self
    obtain ⟨vs, hvs⟩ := ih fun k' hk' => h k' (List.mem_cons_of_mem k hk')
    exact ⟨v :: vs, by rw [OrderKey.valuesOf, hv, hvs]; rfl⟩

theorem keyed_eq_ok (h : ∀ k ∈ order, k.key.Answers rows) : ∃ ks, keyed order rows = .ok ks := by
  induction rows with
  | nil => exact ⟨[], rfl⟩
  | cons row rest ih =>
    obtain ⟨keys, hkeys⟩ := valuesOf_eq_ok fun k hk => h k hk row List.mem_cons_self
    obtain ⟨ks, hks⟩ := ih fun k hk => (h k hk).of_subset fun _ => List.mem_cons_of_mem row
    exact ⟨⟨keys, row⟩ :: ks, by rw [keyed, hkeys, hks]; rfl⟩

theorem keyed_cons_eq_ok (h : keyed order (row :: rows) = .ok ks) :
    ∃ keys tail, OrderKey.valuesOf row order = .ok keys ∧ keyed order rows = .ok tail ∧
      ks = ⟨keys, row⟩ :: tail := by
  obtain ⟨keys, hkeys, h⟩ := bind_eq_ok.mp h
  obtain ⟨tail, htail, h⟩ := bind_eq_ok.mp h
  exact ⟨keys, tail, hkeys, htail, (Except.ok.inj h).symm⟩

theorem keyed_rows (h : keyed order rows = .ok ks) : ks.map Keyed.row = rows := by
  induction rows generalizing ks with
  | nil => cases h; rfl
  | cons row rest ih =>
    obtain ⟨keys, tail, -, htail, rfl⟩ := keyed_cons_eq_ok h
    rw [List.map_cons, ih htail]

theorem keyed_filter (h : keyed order rows = .ok ks) (p : Value → Bool) :
    keyed order (rows.filter p) = .ok (ks.filter fun k => p k.row) := by
  induction rows generalizing ks with
  | nil => cases h; rfl
  | cons row rest ih =>
    obtain ⟨keys, tail, hkeys, htail, rfl⟩ := keyed_cons_eq_ok h
    rw [List.filter_cons, List.filter_cons]
    cases hp : p row with
    | false => exact ih htail
    | true =>
      simp only [if_true]
      rw [keyed, hkeys, ih htail]
      rfl

/-! ## Sorted rows -/

/-- Order of two rows by the values of their keys. -/
def Keyed.compare (order : List OrderKey) (a b : Keyed) : Ordering :=
  OrderKey.compareAll order a.keys b.keys

/-- The sort keys order some rows. -/
def KeysOrder (order : List OrderKey) (rows : List Value) : Prop :=
  ∀ ks, keyed order rows = .ok ks → OrdersOn (Keyed.compare order) ks

instance : Decidable (KeysOrder order rows) :=
  match h : keyed order rows with
  | .ok ks =>
    decidable_of_iff (OrdersOn (Keyed.compare order) ks)
      ⟨fun hks _ hks' => Except.ok.inj (h.symm.trans hks') ▸ hks, fun hall => hall ks h⟩
  | .error _ => isTrue fun _ hks => nomatch h.symm.trans hks

theorem sortRows_cons {k : OrderKey} {ks' : List OrderKey} (h : keyed (k :: ks') rows = .ok ks) :
    sortRows (k :: ks') rows =
      .ok ((stableSort (Keyed.compare (k :: ks')) ks).map Keyed.row) := by
  rw [sortRows, h]
  rfl

/-- Where the sort keys have values, sorting only moves rows. -/
theorem sortRows_perm (h : ∀ k ∈ order, k.key.Answers rows) :
    ∃ sorted, sortRows order rows = .ok sorted ∧ sorted.Perm rows := by
  cases order with
  | nil => exact ⟨rows, rfl, .refl rows⟩
  | cons k rest =>
    obtain ⟨ks, hks⟩ := keyed_eq_ok h
    refine ⟨_, sortRows_cons hks, ?_⟩
    have hperm : (stableSort (Keyed.compare (k :: rest)) ks).Perm ks := stableSort_perm
    rw [← keyed_rows hks]
    exact hperm.map Keyed.row

/-- **Rows may be left out before they are sorted or after**, where the sort keys order them. -/
theorem sortRows_filter (h : ∀ k ∈ order, k.key.Answers rows) (horder : KeysOrder order rows)
    (hsorted : sortRows order rows = .ok sorted) (p : Value → Bool) :
    sortRows order (rows.filter p) = .ok (sorted.filter p) := by
  cases order with
  | nil => cases hsorted; rfl
  | cons k rest =>
    obtain ⟨ks, hks⟩ := keyed_eq_ok h
    rw [sortRows_cons hks] at hsorted
    rw [sortRows_cons (keyed_filter hks p), ← (horder ks hks).filter_stableSort, ← Except.ok.inj hsorted,
      List.filter_map]
    rfl

end RowQuery
