import RowQuery.Text.Hex

/-!
# Sets of code points given by ranges

A table such as `41-5A 61-7A AA` lists inclusive ranges and single code points in hexadecimal.
-/

namespace RowQuery.Text

/-- Inclusive ranges of code points. -/
abbrev Ranges := List (Nat × Nat)

namespace Ranges

/-- Reads a blank-separated table of ranges. -/
def ofText (text : String) : Ranges :=
  (text.splitOn " ").map fun entry =>
    match entry.splitOn "-" with
    | [first, last] => (hexValue first.toList, hexValue last.toList)
    | _ => (hexValue entry.toList, hexValue entry.toList)

def contains (spans : Ranges) (n : Nat) : Bool :=
  spans.any fun span => span.1 ≤ n && n ≤ span.2

theorem contains_iff {spans : Ranges} {n : Nat} :
    spans.contains n = true ↔ ∃ span ∈ spans, span.1 ≤ n ∧ n ≤ span.2 := by
  simp [contains, List.any_eq_true]

end Ranges

end RowQuery.Text
