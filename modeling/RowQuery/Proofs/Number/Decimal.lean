import Mathlib
import RowQuery.Number.Decimal96
import RowQuery.Proofs.Number.Bits

/-!
# Sums that decimals hold

A sum of decimals has no result exactly if it is nearer to a whole number of more than 96 bits than to one
of 96 (`add?_eq_none_iff`, `sub?_eq_none_iff`). Decimals of integers and floats hold (`ofInt64_holds`,
`ofFloat?_holds`).
-/

namespace RowQuery.Number

/-- Even numbers that the rounded quotient reaches: those that the quotient misses by a half at most. -/
theorem even_le_divEven_iff {n d k : Nat} (hd : 0 < d) (hk : k % 2 = 0) :
    k ≤ divEven n d ↔ 2 * k * d ≤ 2 * n + d := by
  have hdiv : n = d * (n / d) + n % d := (Nat.div_add_mod n d).symm
  have hmod := Nat.mod_lt n hd
  simp only [divEven]
  generalize n / d = q at *
  generalize n % d = r at *
  subst hdiv
  rcases Nat.lt_trichotomy k (q + 1) with hlt | rfl | hlt
  · have : k * d ≤ q * d := Nat.mul_le_mul_right d (by omega)
    exact iff_of_true (by split <;> omega) (by nlinarith)
  · -- the quotient lies one below `k`, and is odd: a half is rounded up
    have hup : (d < 2 * r ∨ 2 * r = d ∧ q % 2 = 1) ↔ d ≤ 2 * r := by omega
    simp only [hup]
    split
    next h => exact iff_of_true (by omega) (by nlinarith)
    next h => exact iff_of_false (by omega) (by nlinarith)
  · have : (q + 2) * d ≤ k * d := Nat.mul_le_mul_right d (by omega)
    exact iff_of_false (by split <;> omega) (by nlinarith)

namespace Decimal96

variable {a b : Decimal96} {coef scale : Nat} {negative : Bool}

/-! ## Rounding to 96 bits -/

theorem fitFrom_eq_none_iff (tries k : Nat) :
    fitFrom coef scale tries k = none ↔ ∀ j < tries, limit ≤ divEven coef (10 ^ (k + j)) := by
  induction tries generalizing k with
  | zero => simp [fitFrom]
  | succ tries ih =>
    simp only [fitFrom]
    split
    next hfits =>
      refine iff_of_false (Option.some_ne_none _) fun h => ?_
      exact absurd (h 0 (Nat.succ_pos tries)) (Nat.not_le.mpr hfits)
    next hlarge =>
      simp only [ih, Nat.forall_lt_succ_left, Nat.add_assoc, Nat.add_comm 1, Nat.add_zero]
      exact (and_iff_right (Nat.not_lt.mp hlarge)).symm

/-- A decimal has no place where even its whole part, rounded, has more than 96 bits. -/
theorem fit_eq_none_iff :
    fit negative coef scale = none ↔ 2 * limit * 10 ^ scale ≤ 2 * coef + 10 ^ scale := by
  have hpow (k : Nat) : 0 < 10 ^ k := Nat.pow_pos (by decide)
  have hlimit : limit % 2 = 0 := by decide
  simp only [fit, Option.map_eq_none_iff, fitFrom_eq_none_iff, even_le_divEven_iff (hpow _) hlimit]
  constructor
  · intro h
    have hlast := h (scale - (scale - 28)) (by omega)
    rwa [Nat.add_sub_cancel' (Nat.sub_le scale 28)] at hlast
  · intro h j hj
    have hle : 10 ^ (scale - 28 + j) ≤ 10 ^ scale := Nat.pow_le_pow_right (by decide) (by omega)
    have hone : 1 ≤ limit := by decide
    nlinarith

/-! ## Decimals as rationals -/

/-- The number that a decimal stands for. -/
def toRat (d : Decimal96) : ℚ :=
  (if d.negative then -(d.coef : Int) else d.coef : Int) / 10 ^ d.scale

/-- A decimal whose coefficient has at most 96 bits. -/
def Holds (d : Decimal96) : Prop :=
  d.coef < limit

theorem toRat_neg (d : Decimal96) : d.neg.toRat = -d.toRat := by
  cases hd : d.negative <;> simp [toRat, neg, hd, neg_div]

theorem abs_toRat (d : Decimal96) : |d.toRat| = d.coef / 10 ^ d.scale := by
  rw [toRat, abs_div, abs_of_pos (by positivity : (0 : ℚ) < 10 ^ d.scale)]
  split <;> simp

theorem Holds.abs_lt (h : a.Holds) : |a.toRat| < 2 ^ 96 - 1 / 2 := by
  have hcoef : (a.coef : ℚ) ≤ 2 ^ 96 - 1 := by
    have : a.coef + 1 ≤ 2 ^ 96 := h
    have : (a.coef : ℚ) + 1 ≤ 2 ^ 96 := by exact_mod_cast this
    linarith
  have hscale : (1 : ℚ) ≤ 10 ^ a.scale := one_le_pow₀ (by norm_num)
  have := div_le_self (Nat.cast_nonneg (α := ℚ) a.coef) hscale
  rw [abs_toRat]
  linarith

theorem toRat_of_isZero (h : a.isZero = true) : a.toRat = 0 := by
  have hcoef : a.coef = 0 := by simpa [isZero] using h
  simp [toRat, hcoef]

theorem atScale_cast (h : a.scale ≤ scale) : (a.atScale scale : ℚ) = a.toRat * 10 ^ scale := by
  have hpow : (10 : ℚ) ^ scale = 10 ^ a.scale * 10 ^ (scale - a.scale) := by
    rw [← pow_add, Nat.add_sub_cancel' h]
  have hne : (10 : ℚ) ^ a.scale ≠ 0 := by positivity
  simp only [atScale, toRat, hpow]
  split <;> (push_cast; field_simp)

/-- **A sum has no result** exactly if its magnitude, rounded to a whole number, has more than 96 bits. -/
theorem add?_eq_none_iff (ha : a.Holds) (hb : b.Holds) :
    a.add? b = none ↔ 2 ^ 96 - 1 / 2 ≤ |a.toRat + b.toRat| := by
  simp only [add?]
  split
  next hzero =>
    rw [toRat_of_isZero hzero, zero_add]
    exact iff_of_false (Option.some_ne_none b) (not_le.mpr hb.abs_lt)
  split
  next hzero =>
    rw [toRat_of_isZero hzero, add_zero]
    exact iff_of_false (Option.some_ne_none a) (not_le.mpr ha.abs_lt)
  have hscale : (0 : ℚ) < 10 ^ max a.scale b.scale := by positivity
  have hsum : ((a.atScale (max a.scale b.scale) + b.atScale (max a.scale b.scale)).natAbs : ℚ) =
      |a.toRat + b.toRat| * 10 ^ max a.scale b.scale := by
    rw [Nat.cast_natAbs, Int.cast_abs, Int.cast_add, atScale_cast (le_max_left _ _),
      atScale_cast (le_max_right _ _), ← add_mul, abs_mul, abs_of_pos hscale]
  have hlimit : (limit : ℚ) = 2 ^ 96 := by norm_num [limit]
  rw [fit_eq_none_iff, ← mul_le_mul_iff_of_pos_right hscale, ← hsum, ← Nat.cast_le (α := ℚ)]
  push_cast
  rw [hlimit]
  constructor <;> intro h <;> linarith

theorem sub?_eq_none_iff (ha : a.Holds) (hb : b.Holds) :
    a.sub? b = none ↔ 2 ^ 96 - 1 / 2 ≤ |a.toRat - b.toRat| := by
  have hneg : b.neg.Holds := hb
  rw [sub?, add?_eq_none_iff ha hneg, toRat_neg, ← sub_eq_add_neg a.toRat]

/-! ## Decimals of integers and floats -/

theorem ofInt64_holds (n : Int64) : (ofInt64 n).Holds := by
  have hlow := n.le_toInt
  have hhigh := n.toInt_lt
  simp only [Holds, ofInt64, limit]
  omega

theorem isZero_ofInt64 {n : Int64} : (ofInt64 n).isZero = true ↔ n = 0 := by
  simp only [isZero, ofInt64, decide_eq_true_eq, Int.natAbs_eq_zero]
  rw [← Int64.toInt_inj, Int64.toInt_zero]

theorem tradeHalves_lt (count : Nat) (e10 : Int) {m : Nat} (h : m < limit) :
    (tradeHalves count m e10).1 < limit := by
  induction count generalizing m e10 with
  | zero => exact h
  | succ count ih =>
    simp only [tradeHalves]
    split
    · exact ih _ (by omega)
    split
    · exact ih _ ‹_›
    · exact ih _ (by omega)

theorem tradeDoublings_lt {count m m' : Nat} {e10 e10' : Int} (h : m < limit)
    (hm : tradeDoublings count m e10 = some (m', e10')) : m' < limit := by
  induction count generalizing m e10 with
  | zero => cases hm; exact h
  | succ count ih =>
    simp only [tradeDoublings] at hm
    split at hm
    · exact ih (by simp only [limit]; omega) hm
    split at hm
    · cases hm
    · exact ih (by omega) hm

theorem raise_lt {count m m' : Nat} (h : m < limit) (hm : raise count m = some m') : m' < limit := by
  induction count generalizing m with
  | zero => cases hm; exact h
  | succ count ih =>
    simp only [raise] at hm
    split at hm
    · exact ih ‹_› hm
    · cases hm

theorem dropPlaces_lt {count m : Nat} {e10 : Int} (h : m < limit) : (dropPlaces count m e10).1 < limit := by
  induction count generalizing m e10 with
  | zero => exact h
  | succ count ih =>
    simp only [dropPlaces]
    split
    · decide
    · exact ih (by split <;> omega)

theorem dropExcess_lt {count m : Nat} {e10 : Int} (h : m < limit) : (dropExcess count m e10).1 < limit := by
  induction count generalizing m e10 with
  | zero => exact h
  | succ count ih =>
    simp only [dropExcess]
    split
    · exact h
    · exact ih (by split <;> omega)

theorem dropZeros_lt {count m : Nat} {e10 : Int} (h : m < limit) : (dropZeros count m e10).1 < limit := by
  induction count generalizing m e10 with
  | zero => exact h
  | succ count ih =>
    simp only [dropZeros]
    split
    · exact ih (by omega)
    · exact h

theorem ofBinary?_holds {exp : Int} {d : Decimal96} (hcoef : coef < limit)
    (h : ofBinary? negative coef exp = some d) : d.Holds := by
  simp only [ofBinary?] at h
  split at h
  · cases h
    exact (by decide : 0 < limit)
  · have hhalves := tradeHalves_lt (-exp).toNat exp hcoef
    simp only [Option.bind_eq_bind, Option.bind_eq_some_iff, Prod.exists] at h
    obtain ⟨m, e10, hm, n, hn, h⟩ := h
    have hraised := raise_lt (tradeDoublings_lt hhalves hm) hn
    cases h
    exact dropZeros_lt (dropExcess_lt (dropPlaces_lt hraised))

theorem ofFloat?_holds {x : Float} {d : Decimal96} (h : ofFloat? x = some d) : d.Holds := by
  simp only [ofFloat?] at h
  split at h
  next negative coef exp hdecode =>
    have hcoef : coef < limit := (decode_finite hdecode).1.coef_lt.trans (by decide)
    exact ofBinary?_holds hcoef h
  next => cases h

end Decimal96

end RowQuery.Number
