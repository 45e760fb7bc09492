import RowQuery.Proofs.Number.Addition

/-!
# Whole numbers in floats

Not every integer is a float: `FitsFloat` says which ones are, and they alone are their own nearest float
(`value?_ofInt64_iff`). A float that is a whole number stays as it is when it is rounded to one
(`roundBy_of_whole`), and its whole part is its value (`wholePart_of_whole`).
-/

namespace RowQuery.Number

variable {num den n m k coef : Nat} {exp : Int} {x : Float}

/-! ## Integers that floats hold -/

/-- Whole numbers of at most 53 binary digits, perhaps with zeros behind them. -/
def FitsFloat (n : ℤ) : Prop :=
  ∃ (m : ℤ) (zeros : ℕ), m.natAbs < 2 ^ 53 ∧ n = m * 2 ^ zeros

/-- A quotient that a power of two divides is not rounded there. -/
theorem divEven_scaled_of_dvd (hd : 0 < den) {e : Int} (h : (scaled num den e).2 ∣ (scaled num den e).1) :
    (divEven (scaled num den e).1 (scaled num den e).2 : ℚ) * 2 ^ e = num / den := by
  have hpow : (2 : ℚ) ^ e ≠ 0 := by positivity
  rw [divEven_of_dvd (scaled_pos num hd e) (Nat.mod_eq_zero_of_dvd h),
    Nat.cast_div h (by exact_mod_cast (scaled_pos num hd e).ne'), scaled_div, div_mul_cancel₀ _ hpow]

/-- A natural that floats hold is not rounded. -/
theorem value?_ofRatio_whole (negative : Bool) (hm : m < 2 ^ 53) (h : n = m * 2 ^ k) :
    value? (ofRatio negative n 1) = none ∨ value? (ofRatio negative n 1) = some (signed negative n : ℚ) := by
  by_cases hn : n = 0
  · rw [hn, value?_ofRatio_zero, signed_zero, Int.cast_zero]
    exact .inr rfl
  obtain ⟨e, he⟩ : ∃ e, max (log2Ratio n 1 - 52) (-1074) = e := ⟨_, rfl⟩
  have hlog : log2Ratio n 1 < 53 + k := by
    have hlt : (n : ℚ) < 2 ^ (53 + k : ℤ) := by
      have hnat : n < 2 ^ 53 * 2 ^ k := by
        rw [h]
        exact Nat.mul_lt_mul_of_pos_right hm (by positivity)
      rw [zpow_add₀ (by norm_num), zpow_natCast]
      exact_mod_cast hnat
    have hle := (log2Ratio_spec hn one_ne_zero).1
    rw [Nat.cast_one, div_one] at hle
    exact (zpow_lt_zpow_iff_right₀ (by norm_num : (1 : ℚ) < 2)).mp (hle.trans_lt hlt)
  have hdvd : (scaled n 1 e).2 ∣ (scaled n 1 e).1 := by
    have hpow : 2 ^ e.toNat ∣ 2 ^ k := Nat.pow_dvd_pow 2 (by omega)
    show 1 * 2 ^ e.toNat ∣ n * 2 ^ (-e).toNat
    rw [one_mul, h]
    exact ((hpow.mul_left m).mul_right _)
  have hexact := divEven_scaled_of_dvd one_pos hdvd
  rw [Nat.cast_one, div_one] at hexact
  refine (value?_ofRatio negative hn one_ne_zero he).imp_right fun hsome => ?_
  rw [hsome]
  congr 1
  cases negative
  · exact hexact
  · simp only [signed, if_true, Int.cast_neg, Int.cast_natCast, neg_mul, hexact]

theorem exists_value?_of_lt (negative : Bool) {magnitude : Nat} (h : magnitude < infinityBits) :
    ∃ r, value? (ofMagnitude negative magnitude) = some r := by
  have hinfinity : infinityBits = 2047 * 2 ^ 52 := rfl
  by_cases hsmall : magnitude < 2 ^ 53
  · have hr : InRange magnitude (-1074) := ⟨hsmall, le_rfl, by decide, .inl rfl⟩
    have hbits : magnitude = magnitudeBits magnitude (-1074) := by simp [magnitudeBits]
    rw [hbits]
    exact ⟨_, value?_ofMagnitude negative hr⟩
  · have hr : InRange (2 ^ 52 + magnitude % 2 ^ 52) ((magnitude / 2 ^ 52 : Nat) - 1075) :=
      ⟨by omega, by omega, by omega, .inr (by omega)⟩
    have hbits : magnitude =
        magnitudeBits (2 ^ 52 + magnitude % 2 ^ 52) ((magnitude / 2 ^ 52 : Nat) - 1075) := by
      unfold magnitudeBits
      omega
    rw [hbits]
    exact ⟨_, value?_ofMagnitude negative hr⟩

/-- The nearest float of a 64-bit integer is a whole number. -/
theorem exists_value?_ofInt64 (n : Int64) : ∃ k : ℤ, value? (ofInt64 n) = some (k : ℚ) := by
  have hbound : n.toInt.natAbs ≤ 2 ^ 63 := by
    have hlow := n.le_toInt
    have hhigh := n.toInt_lt
    omega
  have hcast : (n.toInt.natAbs : ℚ) ≤ (2 ^ 63 : Nat) := Nat.cast_le.mpr hbound
  have hmono : ratioBits n.toInt.natAbs 1 ≤ ratioBits (2 ^ 63) 1 :=
    ratioBits_mono one_ne_zero one_ne_zero (div_le_div_of_nonneg_right hcast (by simp))
  have hlt : ratioBits (2 ^ 63) 1 < infinityBits := by decide +kernel
  obtain ⟨r, hr⟩ := exists_value?_of_lt (n.toInt < 0) (hmono.trans_lt hlt)
  obtain ⟨k, rfl⟩ := integral_ofInt64 n r hr
  exact ⟨k, hr⟩

/-- **The nearest float of an integer is that integer** exactly if floats hold it. -/
theorem value?_ofInt64_iff {n : Int64} : value? (ofInt64 n) = some (n.toInt : ℚ) ↔ FitsFloat n.toInt := by
  constructor
  · intro h
    obtain ⟨negative, coef, exp, hdecode, hmagnitude, -⟩ := decode_of_whole h
    obtain ⟨hr, -⟩ := decode_finite hdecode
    have hlt := hr.coef_lt
    by_cases hexp : 0 ≤ exp
    · obtain ⟨zeros, rfl⟩ := Int.eq_ofNat_of_zero_le hexp
      have hnat : n.toInt.natAbs = coef * 2 ^ zeros := by exact_mod_cast hmagnitude
      refine ⟨signed (n.toInt < 0) coef, zeros, by rwa [natAbs_signed], ?_⟩
      have hsigned := signed_mul (n.toInt < 0) coef (2 ^ zeros)
      rw [← hnat, signed_natAbs] at hsigned
      exact_mod_cast hsigned
    · refine ⟨n.toInt, 0, ?_, by rw [pow_zero, mul_one]⟩
      have hle : (n.toInt.natAbs : ℚ) ≤ coef := by
        rw [hmagnitude]
        exact mul_le_of_le_one_right (Nat.cast_nonneg _) (zpow_le_one_of_nonpos₀ (by norm_num) (by omega))
      have hle : n.toInt.natAbs ≤ coef := by exact_mod_cast hle
      omega
  · rintro ⟨m, zeros, hm, hn⟩
    have hnat : n.toInt.natAbs = m.natAbs * 2 ^ zeros := by
      rw [hn, Int.natAbs_mul, Int.natAbs_pow]
      rfl
    obtain ⟨k, hk⟩ := exists_value?_ofInt64 n
    rcases value?_ofRatio_whole (n.toInt < 0) hm hnat with hnone | hsome
    · exact absurd (hnone.symm.trans hk) (by simp)
    · rwa [signed_natAbs] at hsome

/-! ## Rounding to whole numbers -/

/-- Coefficient and exponent of a float that is a whole number, without negative powers. -/
theorem coef_of_whole {n : ℕ} (h : (n : ℚ) = coef * 2 ^ exp) :
    coef * 2 ^ exp.toNat = n * 2 ^ (-exp).toNat := by
  have hscaled : (coef * 2 ^ exp.toNat : ℚ) = n * 2 ^ (-exp).toNat := by
    rw [pow_toNat 2 (by norm_num) exp, h, mul_assoc]
  exact_mod_cast hscaled

/-- **Rounding leaves whole numbers as they are.** -/
theorem roundBy_of_whole {pick : Bool → Nat → Nat → Nat} {n : ℤ} (h : value? x = some (n : ℚ))
    (hpick : ∀ negative m d, 0 < d → pick negative (m * d) d = m) : roundBy pick x = x := by
  obtain ⟨negative, coef, exp, hdecode, hmagnitude, -⟩ := decode_of_whole h
  rw [roundBy, hdecode]
  by_cases hexp : 0 ≤ exp
  · exact if_pos hexp
  obtain ⟨hr, hx⟩ := decode_finite hdecode
  have hcoef := coef_of_whole hmagnitude
  rw [Int.toNat_of_nonpos (by omega), pow_zero, mul_one] at hcoef
  refine (if_neg hexp).trans ?_
  rw [hcoef, hpick _ _ _ (by positivity), hx, ofRatio]
  congr 1
  by_cases hzero : coef = 0
  · have hn : n.natAbs = 0 := by
      rw [hzero, Nat.cast_zero, zero_mul] at hmagnitude
      exact_mod_cast hmagnitude
    have hleast : exp = -1074 := hr.full.resolve_right (by omega)
    rw [hn, hzero, hleast]
    rfl
  · exact ratioBits_exact hr (Nat.pos_of_ne_zero hzero) one_ne_zero (by rw [Nat.cast_one, div_one, hmagnitude])

theorem wholePart_of_whole {n : ℤ} (h : value? x = some (n : ℚ)) : isWhole x = true ∧ wholePart x = n := by
  obtain ⟨negative, coef, exp, hdecode, hmagnitude, hsign⟩ := decode_of_whole h
  have hcoef := coef_of_whole hmagnitude
  have hpow : 0 < 2 ^ (-exp).toNat := by positivity
  constructor
  · rw [isWhole, hdecode]
    refine decide_eq_true ?_
    by_cases hexp : 0 ≤ exp
    · rw [Int.toNat_of_nonpos (by omega), pow_zero, Nat.mod_one]
    · rw [Int.toNat_of_nonpos (by omega : exp ≤ 0), pow_zero, mul_one] at hcoef
      rw [hcoef, Nat.mul_mod_left]
  · rw [wholePart, hdecode]
    simp only [hcoef, Nat.mul_div_cancel _ hpow]
    exact hsign

end RowQuery.Number
