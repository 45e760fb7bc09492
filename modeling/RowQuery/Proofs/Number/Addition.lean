import RowQuery.Proofs.Number.Rounding

/-!
# Sums of floats

Core adds the coefficients of floats at the smaller of the two exponents, and rounds what comes out. The sum
of two finite floats is the float nearest to the exact sum (`add_eq_ofRatio`), so floats without a fraction
have no sum with one (`Integral.add`).
-/

namespace RowQuery.Number

open Float.Model (UnpackedFloat)
open Float.Model.UnpackedFloat

variable {num den num' den' : Nat} {u v : UnpackedFloat} {x y : Float} {p q : ℚ}

/-! ## Floats taken apart -/

/-- What `decode` finds, by what core does. -/
def decodedOf : UnpackedFloat → Decoded
  | .notANumber => .nan
  | .infinity s => .infinite (isNegative s)
  | .zero s => .finite (isNegative s) 0 (-1074)
  | .finite s m e _ => .finite (isNegative s) m e

theorem isNegative_ofBitVec (b : BitVec 64) :
    isNegative (Sign.ofBitVec (bitsSign b)) = decide (2 ^ 63 ≤ b.toNat) := by
  have hlt : b.toNat < 2 ^ 64 := b.isLt
  have hbit : (bitsSign b).toNat = b.toNat / 2 ^ 63 := by
    have hcut : (bitsSign b).toNat = b.toNat / 2 ^ 63 % 2 ^ 1 := by
      simp only [bitsSign, unpackSign, BitVec.toNat_cast, BitVec.extractLsb_toNat, Nat.shiftRight_eq_div_pow]
    omega
  unfold Sign.ofBitVec
  split
  next hzero =>
    have hzero : (bitsSign b).toNat = 0 := by rw [hzero]; rfl
    exact (decide_eq_false (by omega)).symm
  next hone =>
    have hne : (bitsSign b).toNat ≠ 0 := fun h => hone (BitVec.eq_of_toNat_eq h)
    exact (decide_eq_true (by omega)).symm

/-- The parts that `decode` finds, by the bits that core takes. -/
theorem decode_eq {b : BitVec 64} (hb : x.toBits.toNat = b.toNat) : decode x =
    if (bitsExponent b).toNat = 2047 then
      if (bitsFraction b).toNat = 0 then .infinite (isNegative (Sign.ofBitVec (bitsSign b))) else .nan
    else if (bitsExponent b).toNat = 0 then
      .finite (isNegative (Sign.ofBitVec (bitsSign b))) (bitsFraction b).toNat (-1074)
    else .finite (isNegative (Sign.ofBitVec (bitsSign b))) (2 ^ 52 + (bitsFraction b).toNat)
      ((bitsExponent b).toNat - 1075) := by
  have hexponent : b.toNat % 2 ^ 63 / 2 ^ 52 = b.toNat / 2 ^ 52 % 2 ^ 11 := by omega
  have hfraction : b.toNat % 2 ^ 63 % 2 ^ 52 = b.toNat % 2 ^ 52 := by omega
  rw [isNegative_ofBitVec, toNat_bitsExponent, toNat_bitsFraction, decode]
  simp only [hb, hexponent, hfraction]

/-- Core takes a float apart as `decode` does. -/
theorem decode_eq_unpack (x : Float) : decode x = decodedOf x.toModel.unpack := by
  obtain ⟨b, hb⟩ : ∃ b : BitVec 64, x.toModel.toBits.toBitVec = b := ⟨_, rfl⟩
  have hbits : x.toBits.toNat = b.toNat := by rw [← hb]; rfl
  have hlt := (bitsFraction b).isLt
  have hlast : bitsExponent b = -1#11 ↔ (bitsExponent b).toNat = 2047 := BitVec.toNat_inj.symm
  have hleast : bitsExponent b = 0#11 ↔ (bitsExponent b).toNat = 0 := BitVec.toNat_inj.symm
  have hzero : bitsFraction b = 0#52 ↔ (bitsFraction b).toNat = 0 := BitVec.toNat_inj.symm
  have hvalue : (1#1 ++ bitsFraction b).toNat = 2 ^ 52 + (bitsFraction b).toNat := by
    rw [BitVec.toNat_append, ← Nat.shiftLeft_add_eq_or_of_lt hlt]
    rfl
  have hunpack : x.toModel.unpack = unpack .binary64 b := by rw [← hb]; rfl
  rw [decode_eq hbits, hunpack, unpack]
  by_cases hE : bitsExponent b = -1#11
  · rw [if_pos (hlast.mp hE), if_pos hE]
    by_cases hF : bitsFraction b = 0#52
    · rw [if_pos (hzero.mp hF), if_pos hF, decodedOf]
    · rw [if_neg (mt hzero.mpr hF), if_neg hF, decodedOf]
  rw [if_neg (mt hlast.mpr hE), if_neg hE]
  by_cases hE : bitsExponent b = 0#11
  · rw [if_pos (hleast.mp hE), if_pos hE]
    by_cases hF : bitsFraction b = 0#52
    · rw [dif_pos hF, hzero.mp hF, decodedOf]
    · have hexp : ((bitsExponent b).toNat : Int) - ((1023 : Nat) + (52 : Nat)) + 1 = -1074 := by
        rw [hleast.mp hE]
        rfl
      rw [dif_neg hF, ← hexp, decodedOf]
      rfl
  · have hexp : ((bitsExponent b).toNat : Int) - ((1023 : Nat) + (52 : Nat)) = (bitsExponent b).toNat - 1075 := by
      omega
    rw [if_neg (mt hleast.mpr hE), if_neg hE, ← hvalue, ← hexp, decodedOf]
    rfl

/-! ## Addition -/

theorem toNat_toBits_pack (h : x.toModel = .pack u) :
    x.toBits.toNat = (pack .binary64 u).toNat := by
  rw [Float.toBits, h]
  rfl

/-- A float is determined by the bits behind its sign. -/
theorem eq_ofMagnitude {negative : Bool} {magnitude : Nat}
    (h : x.toBits.toNat = signBit negative + magnitude) : x = ofMagnitude negative magnitude := by
  rw [ofMagnitude, ← h, UInt64.ofNat_toNat, ofBits_toBits]

theorem add_unpack (x y : Float) :
    (x + y).toModel = .pack (UnpackedFloat.add .binary64 x.toModel.unpack y.toModel.unpack) := rfl

/-- Signed coefficients are added at the smaller exponent. -/
theorem add_finite {s s' : Sign} {m m' : Nat} {e e' : Int} (hm : 0 < m) (hm' : 0 < m') :
    UnpackedFloat.add .binary64 (.finite s m e hm) (.finite s' m' e' hm') =
      UnpackedFloat.normalize .binary64 (signed (isNegative s) (m * 2 ^ (e - min e e').toNat) +
        signed (isNegative s') (m' * 2 ^ (e' - min e e').toNat)) (min e e') .positive := by
  rw [UnpackedFloat.add]
  simp only [decreaseExponent, Nat.shiftLeft_eq, apply_natCast]

theorem signed_decrease (negative : Bool) (m : Nat) {e t : Int} (h : t ≤ e) :
    (signed negative (m * 2 ^ (e - t).toNat) : ℚ) * 2 ^ t = signed negative m * 2 ^ e := by
  have hpow : (2 : ℚ) ^ (e - t).toNat * 2 ^ t = 2 ^ e := by
    rw [← zpow_natCast, Int.toNat_of_nonneg (by omega), ← zpow_add₀ (by norm_num), sub_add_cancel]
  rw [signed_mul]
  push_cast
  rw [mul_assoc, hpow]

/-- A float is the one nearest to its own value. -/
theorem ratioBits_exact {coef : Nat} {exp : Int} (hr : InRange coef exp) (hc : 0 < coef) (hden : den ≠ 0)
    (h : (num : ℚ) / den = coef * 2 ^ exp) : ratioBits num den = magnitudeBits coef exp := by
  have hpow : (0 : ℚ) < 2 ^ (exp - 2) := by positivity
  have hfour : (2 : ℚ) ^ exp = 4 * 2 ^ (exp - 2) := by
    rw [zpow_sub₀ (by norm_num)]
    norm_num
    ring
  have hvalue : (coef : ℚ) * 2 ^ exp = (4 * coef : Nat) * 2 ^ (exp - 2) := by
    rw [hfour]
    push_cast
    ring
  have hnum : num ≠ 0 := by
    rintro rfl
    have hpos : (0 : ℚ) < coef * 2 ^ exp := by positivity
    rw [← h, Nat.cast_zero, zero_div] at hpos
    exact lt_irrefl 0 hpos
  apply ratioBits_of_mem hr hnum hden
  have hlow : (around coef exp).low < 4 * coef := by
    simp only [around]
    split <;> omega
  have hhigh : 4 * coef < (around coef exp).high := by
    simp only [around]
    omega
  have hlow : ((around coef exp).low : ℚ) < (4 * coef : Nat) := Nat.cast_lt.mpr hlow
  have hhigh : ((4 * coef : Nat) : ℚ) < (around coef exp).high := Nat.cast_lt.mpr hhigh
  have hexp : (around coef exp).exp = exp - 2 := rfl
  rw [h, hvalue, Around.Contains, hexp]
  split
  · exact ⟨mul_le_mul_of_nonneg_right hlow.le hpow.le, mul_le_mul_of_nonneg_right hhigh.le hpow.le⟩
  · exact ⟨mul_lt_mul_of_pos_right hlow hpow, mul_lt_mul_of_pos_right hhigh hpow⟩

/-- The float nearest to a quotient that is the magnitude of a float. -/
theorem eq_ofRatio (hx : value? x = some p) (hne : p ≠ 0) (hden : den ≠ 0) (h : |p| = num / den) :
    x = ofRatio (p < 0) num den := by
  obtain ⟨negative, coef, exp, hdecode, hvalue⟩ := value?_eq_some_iff.mp hx
  obtain ⟨hr, hfloat⟩ := decode_finite hdecode
  have hpow : (0 : ℚ) < 2 ^ exp := by positivity
  have hcoef : 0 < coef := by
    rcases Nat.eq_zero_or_pos coef with hzero | hpos
    · rw [hzero, signed_zero, Int.cast_zero, zero_mul] at hvalue
      exact absurd hvalue.symm hne
    · exact hpos
  have hsign : decide (p < 0) = negative := by
    have hcast : (0 : ℚ) < coef := by exact_mod_cast hcoef
    rw [← hvalue]
    cases negative
    · exact decide_eq_false (not_lt.mpr (by simp only [signed]; positivity))
    · refine decide_eq_true ?_
      simp only [signed, if_true, Int.cast_neg, Int.cast_natCast]
      nlinarith
  have hmagnitude : (num : ℚ) / den = coef * 2 ^ exp := by
    rw [← h, ← hvalue, abs_mul, abs_of_pos hpow, ← Int.cast_abs, Int.abs_eq_natAbs, natAbs_signed,
      Int.cast_natCast]
  rw [hfloat, ofRatio, hsign, ratioBits_exact hr hcoef hden hmagnitude]

theorem ratioBits_congr (hd : den ≠ 0) (hd' : den' ≠ 0) (h : (num : ℚ) / den = num' / den') :
    ratioBits num den = ratioBits num' den' :=
  le_antisymm (ratioBits_mono hd hd' h.le) (ratioBits_mono hd' hd h.ge)

/-- Normalizing rounds to the nearest float. -/
theorem normalize_eq {M e : Int} (he : -1074 ≤ e)
    (hx : x.toModel = .pack (UnpackedFloat.normalize .binary64 M e .positive)) (hM : M ≠ 0) (hden : den ≠ 0)
    (h : |(M : ℚ) * 2 ^ e| = num / den) : x = ofRatio (M < 0) num den := by
  have hpow : (0 : ℚ) < 2 ^ e := by positivity
  have hbits := toNat_toBits_pack hx
  have hquotient : ((M.natAbs * 2 ^ e.toNat : Nat) : ℚ) / ((2 ^ (-e).toNat : Nat) : ℚ) = num / den := by
    rw [mul_zpow_eq_div, ← h, abs_mul, abs_of_pos hpow, Nat.cast_natAbs, Int.cast_abs]
  have hsame : ratioBits (M.natAbs * 2 ^ e.toNat) (2 ^ (-e).toNat) = ratioBits num den :=
    ratioBits_congr (by positivity) hden hquotient
  rw [ofRatio, ← hsame]
  apply eq_ofMagnitude
  rw [hbits]
  rcases lt_trichotomy M 0 with hneg | hzero | hpos
  · have hnormal : UnpackedFloat.normalize .binary64 M e .positive = UnpackedFloat.round .binary64 .negative M.natAbs e := by
      rw [UnpackedFloat.normalize, Int.compare_eq_lt.mpr hneg]
      simp only []
      congr 1
      omega
    rw [hnormal, toNat_pack_round .negative (by omega) he, decide_eq_true hneg]
    rfl
  · exact absurd hzero hM
  · have hnormal : UnpackedFloat.normalize .binary64 M e .positive = UnpackedFloat.round .binary64 .positive M.natAbs e := by
      rw [UnpackedFloat.normalize, Int.compare_eq_gt.mpr hpos]
      simp only []
      congr 1
      omega
    rw [hnormal, toNat_pack_round .positive (by omega) he, decide_eq_false (by omega)]
    rfl

/-- Finite floats taken apart: zeros, and coefficients with an exponent. -/
theorem unpack_of_value (h : value? x = some p) :
    (∃ s, x.toModel.unpack = .zero s ∧ p = 0) ∨ ∃ s m e hm, x.toModel.unpack = .finite s m e hm ∧
      -1074 ≤ e ∧ p = signed (isNegative s) m * 2 ^ e := by
  have hdecode := decode_eq_unpack x
  rw [value?, hdecode] at h
  cases hunpack : x.toModel.unpack with
  | notANumber | infinity => rw [hunpack] at h; cases h
  | zero s =>
    rw [hunpack] at h
    refine .inl ⟨s, rfl, ?_⟩
    rw [← Option.some.inj h, signed_zero, Int.cast_zero, zero_mul]
  | finite s m e hm =>
    rw [hunpack] at h hdecode
    exact .inr ⟨s, m, e, hm, rfl, (decode_finite hdecode).1.least, (Option.some.inj h).symm⟩

theorem eq_of_pack_unpack (h : x.toModel = .pack y.toModel.unpack) : x = y := by
  have hbits : x.toBits = y.toBits := by
    apply UInt64.toNat_inj.mp
    rw [toNat_toBits_pack h]
    exact congrArg BitVec.toNat (pack_unpack y.toModel.toBits.toBitVec y.toModel.valid)
  rw [← ofBits_toBits x, hbits, ofBits_toBits]

theorem value?_of_pack_zero {s : Sign} (h : x.toModel = .pack (.zero s)) : value? x = some 0 := by
  have hbits : x.toBits.toNat = signBit (isNegative s) + 0 := by
    rw [toNat_toBits_pack h]
    exact (toNat_packComponents s 0#11 0#52).trans (by simp)
  rw [eq_ofMagnitude hbits]
  exact value?_ofRatio_zero (isNegative s) 1

/-- **A sum of finite floats is the float nearest to the exact sum.** -/
theorem add_eq_ofRatio (hx : value? x = some p) (hy : value? y = some q) (hne : p + q ≠ 0) (hden : den ≠ 0)
    (h : |p + q| = num / den) : x + y = ofRatio (p + q < 0) num den := by
  have hadd := add_unpack x y
  rcases unpack_of_value hx with ⟨s, hux, rfl⟩ | ⟨s, m, e, hm, hux, he, hp⟩
  · rcases unpack_of_value hy with ⟨s', huy, rfl⟩ | ⟨s', m', e', hm', huy, -, -⟩
    · exact absurd (add_zero 0) hne
    · have hsame : x + y = y := by
        apply eq_of_pack_unpack
        rw [hadd, hux, huy]
        rfl
      rw [zero_add] at hne h ⊢
      rw [hsame]
      exact eq_ofRatio hy hne hden h
  · rcases unpack_of_value hy with ⟨s', huy, rfl⟩ | ⟨s', m', e', hm', huy, he', hq⟩
    · have hsame : x + y = x := by
        apply eq_of_pack_unpack
        rw [hadd, hux, huy]
        rfl
      rw [add_zero] at hne h ⊢
      rw [hsame]
      exact eq_ofRatio hx hne hden h
    · rw [hux, huy, add_finite] at hadd
      obtain ⟨M, hM⟩ : ∃ M, signed (isNegative s) (m * 2 ^ (e - min e e').toNat) +
        signed (isNegative s') (m' * 2 ^ (e' - min e e').toNat) = M := ⟨_, rfl⟩
      have hpow : (0 : ℚ) < 2 ^ min e e' := by positivity
      have hvalue : (M : ℚ) * 2 ^ min e e' = p + q := by
        rw [← hM, Int.cast_add, add_mul, signed_decrease _ _ (min_le_left e e'),
          signed_decrease _ _ (min_le_right e e'), hp, hq]
      have hsign : decide (p + q < 0) = decide (M < 0) := by
        rw [← hvalue, decide_eq_decide]
        constructor
        · intro hlt
          by_contra hge
          have hge : (0 : ℚ) ≤ M := by exact_mod_cast not_lt.mp hge
          exact absurd hlt (not_lt.mpr (mul_nonneg hge hpow.le))
        · intro hlt
          have hlt : (M : ℚ) < 0 := by exact_mod_cast hlt
          exact mul_neg_of_neg_of_pos hlt hpow
      have hzero : M ≠ 0 := by
        rintro rfl
        rw [Int.cast_zero, zero_mul] at hvalue
        exact hne hvalue.symm
      rw [hM] at hadd
      rw [hsign]
      exact normalize_eq (le_min he he') hadd hzero hden (by rw [hvalue, h])

/-- Opposite floats add up to zero. -/
theorem value?_add_of_eq_zero (hx : value? x = some p) (hy : value? y = some q) (h : p + q = 0) :
    value? (x + y) = some 0 := by
  have hadd := add_unpack x y
  have hnonzero (s : Sign) {m : Nat} (e : Int) (hm : 0 < m) : (signed (isNegative s) m : ℚ) * 2 ^ e ≠ 0 := by
    have hpow : (2 : ℚ) ^ e ≠ 0 := by positivity
    have hcoef : signed (isNegative s) m ≠ 0 := fun hzero => by
      have := natAbs_signed (isNegative s) m
      omega
    exact mul_ne_zero (Int.cast_ne_zero.mpr hcoef) hpow
  rcases unpack_of_value hx with ⟨s, hux, rfl⟩ | ⟨s, m, e, hm, hux, he, rfl⟩
  · rcases unpack_of_value hy with ⟨s', huy, rfl⟩ | ⟨s', m', e', hm', huy, -, rfl⟩
    · rw [hux, huy, UnpackedFloat.add] at hadd
      split at hadd
      · exact value?_of_pack_zero hadd
      · exact value?_of_pack_zero hadd
    · rw [zero_add] at h
      exact absurd h (hnonzero s' e' hm')
  · rcases unpack_of_value hy with ⟨s', huy, rfl⟩ | ⟨s', m', e', hm', huy, he', rfl⟩
    · rw [add_zero] at h
      exact absurd h (hnonzero s e hm)
    · rw [hux, huy, add_finite] at hadd
      have hpow : (2 : ℚ) ^ min e e' ≠ 0 := by positivity
      have hzero : signed (isNegative s) (m * 2 ^ (e - min e e').toNat) +
          signed (isNegative s') (m' * 2 ^ (e' - min e e').toNat) = 0 := by
        rw [← signed_decrease _ _ (min_le_left e e'), ← signed_decrease _ _ (min_le_right e e'), ← add_mul] at h
        have hsum := (mul_eq_zero.mp h).resolve_right hpow
        exact_mod_cast hsum
      rw [hzero] at hadd
      exact value?_of_pack_zero hadd

/-! ## Infinities and NaN -/

def IsNonfinite (u : UnpackedFloat) : Prop :=
  u = .notANumber ∨ ∃ s, u = .infinity s

theorem value?_eq_none_iff : value? x = none ↔ IsNonfinite x.toModel.unpack := by
  rw [value?, decode_eq_unpack]
  cases x.toModel.unpack with
  | notANumber => simp [decodedOf, Decoded.value?, IsNonfinite]
  | infinity s => simp [decodedOf, Decoded.value?, IsNonfinite]
  | zero s => simp [decodedOf, Decoded.value?, IsNonfinite]
  | finite s m e hm => simp [decodedOf, Decoded.value?, IsNonfinite]

theorem value?_of_pack_nonfinite (h : x.toModel = .pack u) (hu : IsNonfinite u) : value? x = none := by
  rcases hu with rfl | ⟨s, rfl⟩
  · have hbits : x.toBits.toNat = signBit false + (infinityBits + 2 ^ 51) := by
      rw [toNat_toBits_pack h]
      decide +kernel
    rw [eq_ofMagnitude hbits]
    decide +kernel
  · rw [eq_ofMagnitude ((toNat_toBits_pack h).trans (toNat_packedInfinity s)), value?_infinity]

theorem isNonfinite_add (h : IsNonfinite u ∨ IsNonfinite v) : IsNonfinite (UnpackedFloat.add .binary64 u v) := by
  have hinfinities (s s' : Sign) : IsNonfinite (UnpackedFloat.add .binary64 (.infinity s) (.infinity s')) := by
    rw [UnpackedFloat.add]
    split
    · exact .inr ⟨_, rfl⟩
    · exact .inl rfl
  rcases h with (rfl | ⟨s, rfl⟩) | (rfl | ⟨s, rfl⟩)
  · exact .inl rfl
  · cases v with
    | notANumber => exact .inl rfl
    | infinity s' => exact hinfinities s s'
    | zero | finite => exact .inr ⟨s, rfl⟩
  · cases u with
    | notANumber | infinity | zero | finite => exact .inl rfl
  · cases u with
    | notANumber => exact .inl rfl
    | infinity s' => exact hinfinities s' s
    | zero | finite => exact .inr ⟨s, rfl⟩

/-- A sum with an infinity or NaN is one of these. -/
theorem value?_add_of_none (h : value? x = none ∨ value? y = none) : value? (x + y) = none := by
  rw [value?_eq_none_iff, value?_eq_none_iff] at h
  exact value?_of_pack_nonfinite (add_unpack x y) (isNonfinite_add h)

/-! ## Whole numbers -/

/-- **Floats without a fraction have a sum without a fraction.** -/
theorem Integral.add (hx : Integral x) (hy : Integral y) : Integral (x + y) := by
  cases hp : value? x with
  | none =>
    intro r hr
    rw [value?_add_of_none (.inl hp)] at hr
    cases hr
  | some p =>
    cases hq : value? y with
    | none =>
      intro r hr
      rw [value?_add_of_none (.inr hq)] at hr
      cases hr
    | some q =>
      obtain ⟨m, rfl⟩ := hx p hp
      obtain ⟨n, rfl⟩ := hy q hq
      by_cases hzero : (m + n : ℚ) = 0
      · intro r hr
        rw [value?_add_of_eq_zero hp hq hzero] at hr
        exact ⟨0, by rw [← Option.some.inj hr, Int.cast_zero]⟩
      · have hmagnitude : |(m + n : ℚ)| = ((m + n).natAbs : Nat) / ((1 : Nat) : ℚ) := by
          rw [Nat.cast_one, div_one, Nat.cast_natAbs, Int.cast_abs, Int.cast_add]
        rw [add_eq_ofRatio hp hq hzero one_ne_zero hmagnitude]
        exact integral_ofRatio _ _

end RowQuery.Number
