import RowQuery.Lambda.Eval
import RowQuery.Query.Basic
import RowQuery.Value.Order

/-!
# Sorting rows

The keys of all rows are computed first. A row is then put behind every row that came earlier and does
not compare greater, so that rows with equal keys keep their order.
-/

namespace RowQuery

namespace OrderKey

/-- Order of two values of a key. -/
def compareKeys (k : OrderKey) (a b : Value) : Ordering :=
  let ordering :=
    match k.compare with
    | some compare => compare a b
    | none => a.sortCompare b
  match k.direction with
  | .ascending => ordering
  | .descending => ordering.swap

/-- Order of the keys of two rows: the first key that tells them apart decides. -/
def compareAll : List OrderKey → List Value → List Value → Ordering
  | k :: ks, a :: as, b :: bs => (k.compareKeys a b).then (compareAll ks as bs)
  | _, _, _ => .eq

/-- Values of the keys of a row. -/
def valuesOf (row : Value) : List OrderKey → Eval (List Value)
  | [] => .ok []
  | k :: ks => do
    let v ← k.key.call row
    let vs ← valuesOf row ks
    return v :: vs

end OrderKey

/-- A row with the values of its sort keys. -/
structure Keyed where
  keys : List Value
  row : Value

/-- Rows with their keys. -/
def keyed (order : List OrderKey) : List Value → Eval (List Keyed)
  | [] => .ok []
  | row :: rest => do
    let keys ← OrderKey.valuesOf row order
    let tail ← keyed order rest
    return ⟨keys, row⟩ :: tail

/-- Puts `x` in front of the elements of a list that it is less than; the list starts with its last
element. -/
def insertLast {α : Type} (cmp : α → α → Ordering) (x : α) : List α → List α
  | [] => [x]
  | y :: rest => if cmp x y = .lt then y :: insertLast cmp x rest else x :: y :: rest

/-- Stable sort by insertion from the left. -/
def stableSort {α : Type} (cmp : α → α → Ordering) (xs : List α) : List α :=
  (xs.foldl (fun sorted x => insertLast cmp x sorted) []).reverse

/-- Rows in the order that the sort keys ask for. -/
def sortRows (order : List OrderKey) (rows : List Value) : Eval (List Value) :=
  if order.isEmpty then .ok rows
  else do
    let rows ← keyed order rows
    return (stableSort (fun a b => OrderKey.compareAll order a.keys b.keys) rows).map (·.row)

end RowQuery
