import RowQuery.Eval.Arithmetic
import RowQuery.Proofs.Number.Decimal
import RowQuery.Proofs.Number.Integral

/-!
# Decimals of whole numbers

A decimal of scale 0 stands for a whole number (`Decimal96.IsInt`). The decimal of an integer is one, and so
is the decimal of a float without a fraction: no bit of it is dropped on the way (`ofFloat?_whole`). Sums,
differences and products of such decimals are exact, where they fit.
-/

namespace RowQuery.Number

theorem int64OfInt?_eq_some_iff {k : ℤ} {n : Int64} : int64OfInt? k = some n ↔ n.toInt = k := by
  have hlow := n.le_toInt
  have hhigh := n.toInt_lt
  have hfits : fitsInt64 k = true ↔ -2 ^ 63 ≤ k ∧ k < 2 ^ 63 := by simp [fitsInt64]
  unfold int64OfInt?
  constructor
  · intro h
    split at h
    next hk =>
      obtain ⟨hlow, hhigh⟩ := hfits.mp hk
      rw [← Option.some.inj h]
      exact Int64.toInt_ofInt_of_le hlow hhigh
    next => cases h
  · intro h
    rw [if_pos (hfits.mpr (by omega)), ← h, Int64.ofInt_toInt]

namespace Decimal96

variable {a b c d : Decimal96} {m n : ℤ} {count coef : Nat} {exp : Int} {negative : Bool}

/-- A decimal without places, which stands for the integer `n`. -/
structure IsInt (d : Decimal96) (n : ℤ) : Prop where
  scale_eq : d.scale = 0
  signed_eq : signed d.negative d.coef = n

theorem IsInt.coef_eq (h : d.IsInt n) : d.coef = n.natAbs := by
  rw [← h.signed_eq, natAbs_signed]

theorem isInt_ofInt64 (n : Int64) : (ofInt64 n).IsInt n.toInt :=
  ⟨rfl, signed_natAbs n.toInt⟩

/-! ## From floats -/

theorem tradeHalves_of_dvd {m : Nat} {e : Int} (h : 2 ^ count ∣ m) :
    tradeHalves count m e = (m / 2 ^ count, e + count) := by
  induction count generalizing m e with
  | zero => simp [tradeHalves]
  | succ count ih =>
    obtain ⟨k, rfl⟩ := h
    have hsplit : 2 ^ (count + 1) * k = 2 * (2 ^ count * k) := by rw [pow_succ]; ring
    rw [tradeHalves, if_pos (by omega), hsplit, Nat.mul_div_cancel_left _ (by norm_num),
      ih (Nat.dvd_mul_right _ _), Nat.mul_div_cancel_left _ (by positivity), ← hsplit,
      Nat.mul_div_cancel_left _ (by positivity)]
    push_cast
    ring_nf

/-- Doublings are exact up to 96 bits, and come to nothing beyond. -/
theorem tradeDoublings_eq {m : Nat} (hm : m < limit) : tradeDoublings count m count =
    if m * 2 ^ count < limit then some (m * 2 ^ count, 0) else none := by
  induction count generalizing m with
  | zero => simp [tradeDoublings, hm]
  | succ count ih =>
    have hlimit : limit = 2 * 2 ^ 95 := by norm_num [limit]
    have hsplit : m * 2 ^ (count + 1) = m * 2 * 2 ^ count := by rw [pow_succ]; ring
    have hexp : ((count + 1 : Nat) : ℤ) - 1 = count := by omega
    unfold tradeDoublings
    by_cases hroom : m < 2 ^ 95
    · rw [if_pos hroom, hexp, ih (by omega), hsplit]
    · have hone : 1 ≤ 2 ^ count := Nat.one_le_two_pow
      have hlarge : m * 2 * 1 ≤ m * 2 * 2 ^ count := Nat.mul_le_mul_left _ hone
      rw [if_neg hroom, if_pos (by omega), hsplit, if_neg (by omega)]

/-- A whole number becomes a decimal without places, if it fits. -/
theorem ofBinary?_eq (negative : Bool) (hcoef : coef < 2 ^ 53) {n : Nat} (hn : (n : ℚ) = coef * 2 ^ exp) :
    ofBinary? negative coef exp = if n < limit then some ⟨negative, n, 0⟩ else none := by
  have hlimit : limit = 2 ^ 43 * 2 ^ 53 := by norm_num [limit]
  by_cases hzero : coef = 0
  · have hn : n = 0 := by
      rw [hzero, Nat.cast_zero, zero_mul] at hn
      exact_mod_cast hn
    rw [ofBinary?, if_pos hzero, hn, if_pos (by omega)]
  rw [ofBinary?, if_neg hzero]
  by_cases hexp : 0 ≤ exp
  · obtain ⟨k, rfl⟩ := Int.eq_ofNat_of_zero_le hexp
    have hn : n = coef * 2 ^ k := by
      rw [zpow_natCast] at hn
      exact_mod_cast hn
    have hhalves : (-(k : ℤ)).toNat = 0 := by omega
    simp only [hhalves, tradeHalves, Int.toNat_natCast]
    rw [tradeDoublings_eq (by omega), ← hn]
    by_cases hfits : n < limit
    · rw [if_pos hfits, if_pos hfits]
      rfl
    · rw [if_neg hfits, if_neg hfits]
      rfl
  · obtain ⟨k, rfl⟩ : ∃ k : Nat, exp = -k := ⟨(-exp).toNat, by omega⟩
    have hcoef : coef = 2 ^ k * n := by
      rw [zpow_neg, zpow_natCast, ← div_eq_mul_inv, eq_div_iff (by positivity)] at hn
      rw [mul_comm]
      exact_mod_cast hn.symm
    have hle : n ≤ coef := by
      rw [hcoef]
      exact Nat.le_mul_of_pos_left n (by positivity)
    have hhalves : (- -(k : ℤ)).toNat = k := by omega
    have hdoublings : (-(k : ℤ)).toNat = 0 := by omega
    simp only [hhalves, hdoublings]
    rw [tradeHalves_of_dvd ⟨n, hcoef⟩, hcoef, Nat.mul_div_cancel_left _ (by positivity), neg_add_cancel,
      if_pos (by omega)]
    rfl

/-- **The decimal of a float without a fraction is exact**; there is one up to 96 bits. -/
theorem ofFloat?_whole {x : Float} (h : value? x = some (n : ℚ)) :
    if n.natAbs < limit then ∃ d, ofFloat? x = some d ∧ d.IsInt n else ofFloat? x = none := by
  obtain ⟨negative, coef, exp, hdecode, hmagnitude, hsign⟩ := decode_of_whole h
  obtain ⟨hr, -⟩ := decode_finite hdecode
  have hofFloat : ofFloat? x = ofBinary? negative coef exp := by rw [ofFloat?, hdecode]
  rw [hofFloat, ofBinary?_eq negative hr.coef_lt hmagnitude]
  split
  · exact ⟨_, rfl, rfl, hsign⟩
  · rfl

/-- Only finite floats have a decimal. -/
theorem exists_value? {x : Float} (h : ofFloat? x = some d) : ∃ r, value? x = some r := by
  unfold ofFloat? at h
  cases hdecode : decode x with
  | nan | infinite => rw [hdecode] at h; cases h
  | finite negative coef exp => exact ⟨_, value?_eq_some_iff.mpr ⟨negative, coef, exp, hdecode, rfl⟩⟩

theorem isInt_of_ofFloat? {x : Float} (h : value? x = some (n : ℚ)) (hd : ofFloat? x = some d) : d.IsInt n := by
  have hwhole := ofFloat?_whole h
  split at hwhole
  · obtain ⟨d', hd', hint⟩ := hwhole
    rw [hd] at hd'
    rwa [Option.some.inj hd']
  · rw [hd] at hwhole
    cases hwhole

/-! ## Arithmetic -/

theorem IsInt.atScale_eq (h : d.IsInt n) : d.atScale 0 = n := by
  obtain ⟨hscale, hsigned⟩ := h
  rw [← hsigned, atScale, hscale]
  simp [signed]

theorem fit_whole (negative : Bool) (coef : Nat) :
    fit negative coef 0 = if coef < limit then some ⟨negative, coef, 0⟩ else none := by
  have hround : divEven coef (10 ^ 0) = coef := by
    rw [Nat.pow_zero, divEven_of_dvd one_pos (Nat.mod_one _), Nat.div_one]
  show (if divEven coef (10 ^ 0) < limit then some (divEven coef (10 ^ 0), 0) else none).map _ = _
  rw [hround]
  split <;> rfl

theorem isInt_zero_iff (h : d.IsInt n) : d.isZero = true ↔ n = 0 := by
  rw [isZero, decide_eq_true_iff, h.coef_eq, Int.natAbs_eq_zero]

theorem IsInt.neg (h : d.IsInt n) : d.neg.IsInt (-n) := by
  refine ⟨h.scale_eq, ?_⟩
  rw [← h.signed_eq]
  cases hnegative : d.negative <;> simp [Decimal96.neg, signed, hnegative]

theorem IsInt.add? (ha : a.IsInt m) (hb : b.IsInt n) (h : a.add? b = some c) : c.IsInt (m + n) := by
  simp only [Decimal96.add?, ha.scale_eq, hb.scale_eq, max_self, ha.atScale_eq, hb.atScale_eq, fit_whole] at h
  split at h
  next hzero =>
    rw [(isInt_zero_iff ha).mp hzero, zero_add, ← Option.some.inj h]
    exact hb
  split at h
  next hzero =>
    rw [(isInt_zero_iff hb).mp hzero, add_zero, ← Option.some.inj h]
    exact ha
  split at h
  next =>
    rw [← Option.some.inj h]
    exact ⟨rfl, signed_natAbs (m + n)⟩
  next => cases h

theorem IsInt.sub? (ha : a.IsInt m) (hb : b.IsInt n) (h : a.sub? b = some c) : c.IsInt (m - n) :=
  ha.add? hb.neg h

theorem IsInt.mul? (ha : a.IsInt m) (hb : b.IsInt n) (h : a.mul? b = some c) : c.IsInt (m * n) := by
  simp only [Decimal96.mul?, ha.scale_eq, hb.scale_eq, add_zero, fit_whole] at h
  split at h
  next hzero =>
    rw [Bool.or_eq_true, isInt_zero_iff ha, isInt_zero_iff hb] at hzero
    rw [← Option.some.inj h, mul_eq_zero.mpr hzero]
    exact ⟨rfl, rfl⟩
  split at h
  next =>
    rw [← Option.some.inj h]
    refine ⟨rfl, ?_⟩
    rw [signed_mul_signed, ha.signed_eq, hb.signed_eq]
  next => cases h

/-- Products, sums and differences have a decimal if they fit. -/
theorem IsInt.exists_mul? (ha : a.IsInt m) (hb : b.IsInt n) (h : (m * n).natAbs < limit) :
    ∃ c, a.mul? b = some c := by
  rw [Int.natAbs_mul, ← ha.coef_eq, ← hb.coef_eq] at h
  simp only [Decimal96.mul?, ha.scale_eq, hb.scale_eq, add_zero, fit_whole, if_pos h]
  split
  · exact ⟨_, rfl⟩
  · exact ⟨_, rfl⟩

theorem IsInt.exists_add? (ha : a.IsInt m) (hb : b.IsInt n) (h : (m + n).natAbs < limit) :
    ∃ c, a.add? b = some c := by
  simp only [Decimal96.add?, ha.scale_eq, hb.scale_eq, max_self, ha.atScale_eq, hb.atScale_eq, fit_whole, if_pos h]
  split
  · exact ⟨_, rfl⟩
  split
  · exact ⟨_, rfl⟩
  · exact ⟨_, rfl⟩

theorem IsInt.exists_sub? (ha : a.IsInt m) (hb : b.IsInt n) (h : (m - n).natAbs < limit) :
    ∃ c, a.sub? b = some c :=
  ha.exists_add? hb.neg h

theorem IsInt.toInt?_eq (h : d.IsInt n) : d.toInt? = some n := by
  unfold toInt?
  rw [h.scale_eq, Nat.pow_zero, if_pos (Nat.mod_one _), Nat.div_one]
  exact congrArg some h.signed_eq

end Decimal96

end RowQuery.Number

namespace RowQuery.Arithmetic

open Number

/-- A whole decimal becomes the integer it stands for, or the nearest float. -/
theorem ofDecimal_eq {d : Decimal96} {n : ℤ} (h : d.IsInt n) : ofDecimal d =
    match int64OfInt? n with
    | some r => .int r
    | none => .float (ofRatio d.negative n.natAbs 1) := by
  rw [ofDecimal, h.toInt?_eq, Decimal96.toFloat, if_pos h.scale_eq, h.coef_eq]
  rfl

end RowQuery.Arithmetic
