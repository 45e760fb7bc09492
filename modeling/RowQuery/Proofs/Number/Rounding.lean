import RowQuery.Proofs.Number.Integral

/-!
# Rounding by dropped bits

Core rounds a coefficient by dropping bit after bit, remembering whether a half, more or less than a half
was dropped (`Stands`). Here the outcome is tied to `ratioBits`: what is packed has the bits of the float
nearest to the exact value (`toNat_pack_round`).
-/

namespace RowQuery.Number

open Float.Model (UnpackedFloat Format totalExponent)
open Float.Model.UnpackedFloat

variable {num den : Nat}

/-! ## Dropping bits -/

/-- The exact number that a coefficient stands for, the bits dropped behind it being remembered. -/
def Stands (em : ExtendedMantissa) (q : ℚ) : Prop :=
  match em with
  | ⟨m, false, false⟩ => q = m
  | ⟨m, false, true⟩ => m < q ∧ q < m + 1 / 2
  | ⟨m, true, false⟩ => q = m + 1 / 2
  | ⟨m, true, true⟩ => m + 1 / 2 < q ∧ q < m + 1

theorem Stands.shiftRightOne {em : ExtendedMantissa} {q : ℚ} (h : Stands em q) :
    Stands em.shiftRightOne (q / 2) := by
  obtain ⟨m, half, less⟩ := em
  have hm : ((2 * (m / 2) + m % 2 : Nat) : ℚ) = m := by rw [Nat.div_add_mod]
  push_cast at hm
  rcases Nat.mod_two_eq_zero_or_one m with hmod | hmod
  all_goals
    rw [hmod] at hm
    cases half <;> cases less <;> simp only [Stands] at h
    all_goals simp [Stands, ExtendedMantissa.shiftRightOne, hmod]
    all_goals norm_num at hm
  all_goals first | linarith | (constructor <;> linarith)

theorem stands_shift (m k : Nat) :
    Stands (ExtendedMantissa.ofMantissaAndAccuracy m .exact >>> k) (m / 2 ^ k) := by
  show Stands (Nat.repeat ExtendedMantissa.shiftRightOne k _) _
  induction k with
  | zero => simp [Nat.repeat, Stands, ExtendedMantissa.ofMantissaAndAccuracy]
  | succ k ih =>
    rw [pow_succ, ← div_div]
    exact ih.shiftRightOne

/-- What was dropped decides how the coefficient is rounded: a half goes to the even neighbour. -/
theorem Stands.roundedMantissa {em : ExtendedMantissa} (hd : 0 < den) (h : Stands em (num / den)) :
    em.roundedMantissa = divEven num den := by
  obtain ⟨m, half, less⟩ := em
  symm
  cases half with
  | false =>
    -- less than a half was dropped
    have hbounds : (m : ℚ) ≤ num / den ∧ (num : ℚ) / den < m + 1 / 2 := by
      cases less
      · simp only [Stands] at h
        constructor <;> linarith
      · exact ⟨h.1.le, h.2⟩
    have hround : ExtendedMantissa.roundedMantissa ⟨m, false, less⟩ = m := by cases less <;> rfl
    rw [hround]
    exact divEven_of_div hd (by linarith) (by linarith) fun _ => ⟨by linarith, by linarith⟩
  | true =>
    cases less with
    | false =>
      have hhalf : (num : ℚ) / den = m + 1 / 2 := h
      show divEven num den = m + m % 2
      rcases Nat.mod_two_eq_zero_or_one m with hmod | hmod
      · rw [hmod, Nat.add_zero]
        exact divEven_of_div hd (by linarith) (by linarith) fun hodd => by omega
      · rw [hmod]
        exact divEven_of_div hd (by push_cast; linarith) (by push_cast; linarith) fun hodd => by omega
    | true =>
      have hbounds : (m : ℚ) + 1 / 2 < num / den ∧ (num : ℚ) / den < m + 1 := h
      show divEven num den = m + 1
      refine divEven_of_div hd ?_ ?_ fun _ => ⟨?_, ?_⟩
      all_goals
        push_cast
        linarith

/-! ## Rounding -/

theorem targetExponent_eq (m : Nat) (e : Int) :
    Format.binary64.targetExponent (totalExponent m e) = max (m.log2 + e - 52) (-1074) := by
  simp only [Format.targetExponent, totalExponent, Format.mantissaBits, Format.minExponent]
  norm_num
  omega

theorem shiftToTargetExponent_eq (m : Nat) (e : Int) :
    shiftToTargetExponent .binary64 m e .exact =
      (ExtendedMantissa.ofMantissaAndAccuracy m .exact >>> (max (m.log2 + e - 52) (-1074) - e).toNat,
        e + (max (m.log2 + e - 52) (-1074) - e).toNat) := by
  rw [shiftToTargetExponent, targetExponent_eq]
  rfl

theorem mantissa_shift (m k : Nat) :
    (ExtendedMantissa.ofMantissaAndAccuracy m .exact >>> k).mantissa = m / 2 ^ k := by
  show (Nat.repeat ExtendedMantissa.shiftRightOne k _).mantissa = _
  induction k with
  | zero => simp [Nat.repeat, ExtendedMantissa.ofMantissaAndAccuracy]
  | succ k ih =>
    rw [Nat.pow_succ, ← Nat.div_div_eq_div_mul, ← ih]
    rfl

/-- A rounded coefficient needs no second rounding: it has 53 bits, or is the power of two behind those. -/
theorem shift_rounded {c : Nat} {e : Int} (hc : 0 < c) (hle : c ≤ 2 ^ 53) (he : -1074 ≤ e)
    (hfull : e = -1074 ∨ 2 ^ 52 ≤ c) :
    ∃ c' e', (shiftToTargetExponent .binary64 c e .exact).1.mantissa = c' ∧
      (shiftToTargetExponent .binary64 c e .exact).2 = e' ∧ 0 < c' ∧ c' < 2 ^ 53 ∧ -1074 ≤ e' ∧
        (e' = -1074 ∨ 2 ^ 52 ≤ c') ∧ magnitudeBits c' e' = magnitudeBits c e := by
  rw [shiftToTargetExponent_eq]
  simp only [mantissa_shift]
  rcases Nat.lt_or_eq_of_le hle with hlt | rfl
  · have hlog : c.log2 < 53 := (Nat.log2_lt hc.ne').mpr hlt
    have hshift : (max (c.log2 + e - 52) (-1074) - e).toNat = 0 := by omega
    refine ⟨c, e, ?_, ?_, hc, hlt, he, hfull, rfl⟩
    · rw [hshift, Nat.pow_zero, Nat.div_one]
    · rw [hshift, Nat.cast_zero, add_zero]
  · have hshift : (max (((2 ^ 53 : Nat).log2 : Int) + e - 52) (-1074) - e).toNat = 1 := by
      rw [Nat.log2_two_pow]
      omega
    refine ⟨2 ^ 52, e + 1, ?_, ?_, by norm_num, by norm_num, by omega, .inr le_rfl, ?_⟩
    · rw [hshift]
      norm_num
    · rw [hshift, Nat.cast_one]
    · unfold magnitudeBits
      omega

/-- The sign, as `signBit` and `signed` take it. -/
def isNegative : Sign → Bool
  | .negative => true
  | .positive => false

theorem apply_natCast (s : Sign) (n : Nat) : s.apply n = signed (isNegative s) n := by
  cases s <;> rfl

theorem toNat_components (a : BitVec 1) (exponent : BitVec 11) (fraction : BitVec 52) :
    (a ++ exponent ++ fraction).toNat = a.toNat * 2 ^ 63 + exponent.toNat * 2 ^ 52 + fraction.toNat := by
  have hexponent := exponent.isLt
  have hfraction := fraction.isLt
  rw [BitVec.toNat_append, ← Nat.shiftLeft_add_eq_or_of_lt hfraction, BitVec.toNat_append,
    ← Nat.shiftLeft_add_eq_or_of_lt hexponent, Nat.shiftLeft_eq, Nat.shiftLeft_eq]
  omega

theorem toNat_packComponents (s : Sign) (exponent : BitVec 11) (fraction : BitVec 52) :
    (packComponents .binary64 s exponent fraction).toNat =
      signBit (isNegative s) + exponent.toNat * 2 ^ 52 + fraction.toNat := by
  have h := toNat_components s.toBitVec exponent fraction
  have hsign : s.toBitVec.toNat * 2 ^ 63 = signBit (isNegative s) := by cases s <;> decide
  rw [hsign] at h
  exact h

theorem toNat_packedInfinity (s : Sign) :
    (packedInfinity .binary64 s).toNat = signBit (isNegative s) + infinityBits := by
  have h := toNat_packComponents s (-1#11) 0#52
  have hexponent : (-1#11).toNat = 2047 := by decide
  rw [hexponent] at h
  exact h

/-- Bits of a coefficient and an exponent that need no more rounding; too large an exponent is infinity. -/
theorem toNat_pack {s : Sign} {c : Nat} {e : Int} (hc : 0 < c) (hlt : c < 2 ^ 53) (he : -1074 ≤ e)
    (hfull : e = -1074 ∨ 2 ^ 52 ≤ c) : (pack .binary64 (.finite s c e hc)).toNat =
      signBit (isNegative s) + min (magnitudeBits c e) infinityBits := by
  have hbits (biased fraction : Nat) (h : biased % 2 ^ 11 * 2 ^ 52 + fraction % 2 ^ 52 =
      min ((e + 1074).toNat * 2 ^ 52 + c) (2047 * 2 ^ 52)) :
      (packComponents .binary64 s (BitVec.ofNat 11 biased) (BitVec.ofNat 52 fraction)).toNat =
        signBit (isNegative s) + min (magnitudeBits c e) infinityBits := by
    rw [toNat_packComponents, BitVec.toNat_ofNat, BitVec.toNat_ofNat, Nat.add_assoc, h]
    rfl
  have hbiased : (e + (1023 : Nat) + (52 : Nat)).toNat = (e + 1075).toNat := by omega
  show (if 2 ^ 11 ≤ (e + (1023 : Nat) + (52 : Nat)).toNat + 1 then packedInfinity .binary64 s
    else if c.log2 + 1 = 53 then
      packComponents .binary64 s (BitVec.ofNat 11 (e + (1023 : Nat) + (52 : Nat)).toNat) (BitVec.ofNat 52 c)
    else packComponents .binary64 s 0#11 (BitVec.ofNat 52 c)).toNat = _
  rw [hbiased]
  by_cases hlarge : 2 ^ 11 ≤ (e + 1075).toNat + 1
  · have hmax : 2047 * 2 ^ 52 ≤ (e + 1074).toNat * 2 ^ 52 + c := by omega
    rw [if_pos hlarge, toNat_packedInfinity]
    exact congrArg _ (Nat.min_eq_right hmax).symm
  rw [if_neg hlarge]
  by_cases hnormal : 2 ^ 52 ≤ c
  · have hlog : c.log2 = 52 := (Nat.log2_eq_iff hc.ne').mpr ⟨hnormal, hlt⟩
    rw [if_pos (by omega)]
    exact hbits _ _ (by omega)
  · have hlog : c.log2 < 52 := (Nat.log2_lt hc.ne').mpr (by omega)
    rw [if_neg (by omega)]
    exact hbits 0 _ (by omega)

theorem roundWithAccuracy_eq {s : Sign} {m c : Nat} {e e' : Int} (hc : 0 < c)
    (hmantissa : (shiftToTargetExponent .binary64
      (shiftToTargetExponent .binary64 m e .exact).1.roundedMantissa
      (shiftToTargetExponent .binary64 m e .exact).2 .exact).1.mantissa = c)
    (hexponent : (shiftToTargetExponent .binary64
      (shiftToTargetExponent .binary64 m e .exact).1.roundedMantissa
      (shiftToTargetExponent .binary64 m e .exact).2 .exact).2 = e') :
    roundWithAccuracy .binary64 s m e .exact = .finite s c e' hc := by
  subst hmantissa hexponent
  unfold roundWithAccuracy
  exact dif_neg hc.ne'

/-- The quotient of naturals that `m · 2 ^ e` is. -/
theorem mul_zpow_eq_div (m : Nat) (e : Int) :
    ((m * 2 ^ e.toNat : Nat) : ℚ) / ((2 ^ (-e).toNat : Nat) : ℚ) = m * 2 ^ e := by
  have hne : (2 : ℚ) ^ (-e).toNat ≠ 0 := by positivity
  push_cast
  rw [pow_toNat 2 (by norm_num) e, div_eq_iff hne]
  ring

theorem log2Ratio_mul_zpow {m : Nat} (hm : m ≠ 0) (e : Int) :
    log2Ratio (m * 2 ^ e.toNat) (2 ^ (-e).toNat) = m.log2 + e := by
  have hpow : (0 : ℚ) < 2 ^ e := by positivity
  apply log2Ratio_eq (by positivity) (by positivity)
  · rw [mul_zpow_eq_div, zpow_add₀ (by norm_num)]
    exact mul_le_mul_of_nonneg_right (log2_le_cast hm) hpow.le
  · rw [mul_zpow_eq_div, add_right_comm, zpow_add₀ (by norm_num)]
    exact mul_lt_mul_of_pos_right (cast_lt_log2 m) hpow

theorem log2_mul_two_pow {m : Nat} (hm : 0 < m) (k : Nat) : (m * 2 ^ k).log2 = m.log2 + k := by
  rw [Nat.log2_eq_iff (by positivity), add_right_comm, pow_add, pow_add]
  exact ⟨Nat.mul_le_mul_right _ (Nat.log2_self_le hm.ne'),
    Nat.mul_lt_mul_of_pos_right Nat.lt_log2_self (by positivity)⟩

/-- Dropping bits rounds to a multiple of `2 ^ t`, however far the coefficient was widened before. -/
theorem roundedMantissa_shift {m k j : Nat} {e t : Int} (h : e - k + j = t) :
    (ExtendedMantissa.ofMantissaAndAccuracy (m * 2 ^ k) .exact >>> j).roundedMantissa =
      divEven (scaled (m * 2 ^ e.toNat) (2 ^ (-e).toNat) t).1
        (scaled (m * 2 ^ e.toNat) (2 ^ (-e).toNat) t).2 := by
  have hvalue : ((m * 2 ^ k : Nat) : ℚ) / 2 ^ j = m * 2 ^ e / 2 ^ t := by
    rw [div_eq_div_iff (by positivity) (by positivity), ← zpow_natCast, ← h, zpow_add₀ (by norm_num),
      zpow_sub₀ (by norm_num)]
    push_cast
    rw [zpow_natCast, zpow_natCast]
    field_simp
  have hstands := stands_shift (m * 2 ^ k) j
  rw [hvalue, ← mul_zpow_eq_div, ← scaled_div] at hstands
  exact hstands.roundedMantissa (scaled_pos _ (by positivity) t)

/-- **Rounding finds the bits of the nearest float.** -/
theorem toNat_pack_round (s : Sign) {m : Nat} (hm : 0 < m) {e : Int} (he : -1074 ≤ e) :
    (pack .binary64 (UnpackedFloat.round .binary64 s m e)).toNat =
      signBit (isNegative s) + ratioBits (m * 2 ^ e.toNat) (2 ^ (-e).toNat) := by
  obtain ⟨t, ht⟩ : ∃ t, max (m.log2 + e - 52) (-1074) = t := ⟨_, rfl⟩
  have hnum : m * 2 ^ e.toNat ≠ 0 := by positivity
  have hden : 2 ^ (-e).toNat ≠ 0 := by positivity
  have htarget : max (log2Ratio (m * 2 ^ e.toNat) (2 ^ (-e).toNat) - 52) (-1074) = t := by
    rw [log2Ratio_mul_zpow hm.ne', ht]
  rw [ratioBits_eq hnum htarget rfl]
  obtain ⟨hle, hfull⟩ := divEven_scaled_bounds hnum hden htarget
  -- the coefficient is first widened, so that bits are only dropped from then on
  obtain ⟨k, hk⟩ : ∃ k : Nat, (e - t).toNat = k := ⟨_, rfl⟩
  obtain ⟨j, hj⟩ : ∃ j : Nat, (t - (e - k)).toNat = j := ⟨_, rfl⟩
  have hexp : e - k + j = t := by omega
  have htarget' : max (((m * 2 ^ k).log2 : Int) + (e - k) - 52) (-1074) = t := by
    rw [log2_mul_two_pow hm]
    omega
  have hshift := shiftToTargetExponent_eq (m * 2 ^ k) (e - k)
  rw [htarget', hj, hexp] at hshift
  have hround := roundedMantissa_shift (m := m) hexp
  have hpositive : 0 < divEven (scaled (m * 2 ^ e.toNat) (2 ^ (-e).toNat) t).1
      (scaled (m * 2 ^ e.toNat) (2 ^ (-e).toNat) t).2 := by
    rcases hfull with hleast | hfull
    · have hj : j = 0 := by omega
      rw [← hround, hj]
      show 0 < m * 2 ^ k
      positivity
    · omega
  generalize divEven (scaled (m * 2 ^ e.toNat) (2 ^ (-e).toNat) t).1
    (scaled (m * 2 ^ e.toNat) (2 ^ (-e).toNat) t).2 = c at *
  obtain ⟨c', e', hc', he', hpos, hlt, hleast, hfull', hsame⟩ := shift_rounded hpositive hle (by omega) hfull
  have hresult : UnpackedFloat.round .binary64 s m e = .finite s c' e' hpos := by
    rw [UnpackedFloat.round, targetExponent_eq, ht]
    simp only [decreaseExponent, hk, Nat.shiftLeft_eq]
    apply roundWithAccuracy_eq
    · rw [hshift, hround]
      exact hc'
    · rw [hshift, hround]
      exact he'
  rw [hresult, toNat_pack hpos hlt hleast hfull', hsame]

end RowQuery.Number
