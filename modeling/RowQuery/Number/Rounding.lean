import RowQuery.Number.Power

/-!
# Rounding of quotients

`n` divided by a positive `d`, rounded to a whole number in three ways.
-/

namespace RowQuery.Number

/-- Nearest whole number; a half goes to the even neighbour. -/
def divEven (n d : Nat) : Nat :=
  let q := n / d
  let r := n % d
  if d < 2 * r ∨ (2 * r = d ∧ q % 2 = 1) then q + 1 else q

/-- Nearest whole number; a half goes up. -/
def divHalfUp (n d : Nat) : Nat :=
  (2 * n + d) / (2 * d)

/-- Least whole number that is not below the quotient. -/
def divCeil (n d : Nat) : Nat :=
  (n + d - 1) / d

theorem divEven_of_dvd {n d : Nat} (hd : 0 < d) (h : n % d = 0) : divEven n d = n / d := by
  simp only [divEven, h]
  rw [if_neg]
  omega

theorem le_divEven (n d : Nat) : n / d ≤ divEven n d := by
  simp only [divEven]; split <;> omega

theorem divEven_le (n d : Nat) : divEven n d ≤ n / d + 1 := by
  simp only [divEven]; split <;> omega

end RowQuery.Number
