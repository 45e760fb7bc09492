import RowQuery.Proofs.Number.Monotone

/-!
# Whole floats

The value of a finite float is a rational (`value?`). Floats without a fraction are `Integral`; so is the
float nearest to a whole number, however large the number is (`integral_ofRatio`).
-/

namespace RowQuery.Number

variable {negative : Bool} {num den num' den' coef : Nat} {exp : Int} {x : Float}

/-! ## Bits of finite floats -/

theorem decode_magnitudeBits (negative : Bool) (hr : InRange coef exp) :
    decode (ofMagnitude negative (magnitudeBits coef exp)) = .finite negative coef exp := by
  have hbits := toBits_ofMagnitude negative (magnitudeBits_le hr)
  obtain ⟨hcoef, hleast, hgreatest, hfull⟩ := hr
  have hmagnitude : magnitudeBits coef exp < 2047 * 2 ^ 52 := by
    unfold magnitudeBits
    omega
  have hsign : signBit negative = if negative then 2 ^ 63 else 0 := rfl
  simp only [decode, hbits]
  have hnegative : decide (2 ^ 63 ≤ signBit negative + magnitudeBits coef exp) = negative := by
    cases negative <;> simp [hsign]; omega
  have hrest : (signBit negative + magnitudeBits coef exp) % 2 ^ 63 = magnitudeBits coef exp := by
    cases negative <;> simp [hsign] <;> omega
  rw [hnegative, hrest, if_neg (by omega)]
  unfold magnitudeBits at *
  by_cases hsmall : coef < 2 ^ 52
  · have hexp : exp = -1074 := hfull.resolve_right (by omega)
    rw [if_pos (by omega)]
    congr 1 <;> omega
  · rw [if_neg (by omega)]
    congr 1 <;> omega

/-! ## Values -/

/-- A natural number with a sign. -/
def signed (negative : Bool) (n : Nat) : ℤ :=
  if negative then -n else n

theorem signed_zero (negative : Bool) : signed negative 0 = 0 := by
  cases negative <;> rfl

theorem signed_mul (negative : Bool) (m n : Nat) : signed negative (m * n) = signed negative m * n := by
  cases negative
  · exact Int.natCast_mul m n
  · show -((m * n : Nat) : ℤ) = -m * n
    push_cast
    ring

theorem signed_mul_signed (p q : Bool) (m n : Nat) :
    signed (p != q) (m * n) = signed p m * signed q n := by
  cases p <;> cases q <;> simp [signed]

theorem signed_natAbs (k : ℤ) : signed (k < 0) k.natAbs = k := by
  simp only [signed, decide_eq_true_eq]
  split <;> omega

theorem natAbs_signed (negative : Bool) (n : Nat) : (signed negative n).natAbs = n := by
  cases negative
  · exact Int.natAbs_natCast n
  · exact (Int.natAbs_neg n).trans (Int.natAbs_natCast n)

/-- Value of a finite float. -/
def Decoded.value? : Decoded → Option ℚ
  | finite negative coef exp => some (signed negative coef * 2 ^ exp)
  | _ => none

def value? (x : Float) : Option ℚ :=
  (decode x).value?

theorem value?_eq_some_iff {r : ℚ} : value? x = some r ↔
    ∃ negative coef exp, decode x = .finite negative coef exp ∧ (signed negative coef : ℚ) * 2 ^ exp = r := by
  unfold value?
  cases decode x with
  | nan | infinite => simp [Decoded.value?]
  | finite negative coef exp => simp [Decoded.value?]

/-- Parts of a float that is a whole number. -/
theorem decode_of_whole {n : ℤ} (h : value? x = some (n : ℚ)) : ∃ negative coef exp,
    decode x = .finite negative coef exp ∧ (n.natAbs : ℚ) = coef * 2 ^ exp ∧
      signed negative n.natAbs = n := by
  obtain ⟨negative, coef, exp, hdecode, hvalue⟩ := value?_eq_some_iff.mp h
  have hpow : (0 : ℚ) < 2 ^ exp := by positivity
  have hmagnitude : (n.natAbs : ℚ) = coef * 2 ^ exp := by
    rw [Nat.cast_natAbs, Int.cast_abs, ← hvalue, abs_mul, abs_of_pos hpow, ← Int.cast_abs, Int.abs_eq_natAbs,
      natAbs_signed, Int.cast_natCast]
  have hscaled : (signed negative n.natAbs : ℚ) = signed negative coef * 2 ^ exp := by
    cases negative
    · exact hmagnitude
    · simp only [signed, if_true, Int.cast_neg, Int.cast_natCast, hmagnitude, neg_mul]
  exact ⟨negative, coef, exp, hdecode, hmagnitude, by exact_mod_cast hscaled.trans hvalue⟩

theorem value?_ofMagnitude (negative : Bool) (hr : InRange coef exp) :
    value? (ofMagnitude negative (magnitudeBits coef exp)) =
      some ((signed negative coef : ℚ) * 2 ^ exp) :=
  value?_eq_some_iff.mpr ⟨negative, coef, exp, decode_magnitudeBits negative hr, rfl⟩

theorem value?_infinity (negative : Bool) : value? (ofMagnitude negative infinityBits) = none := by
  cases negative <;> decide +kernel

/-- The float nearest to a quotient is infinite, or its value is that of the rounded coefficient. -/
theorem value?_ofRatio (negative : Bool) (hn : num ≠ 0) (hd : den ≠ 0) {e : ℤ}
    (he : max (log2Ratio num den - 52) (-1074) = e) :
    value? (ofRatio negative num den) = none ∨ value? (ofRatio negative num den) =
      some ((signed negative (divEven (scaled num den e).1 (scaled num den e).2) : ℚ) * 2 ^ e) := by
  obtain ⟨hle, hge⟩ := divEven_scaled_bounds hn hd he
  have hinfinity : infinityBits = 2047 * 2 ^ 52 := rfl
  rw [ofRatio, ratioBits_eq hn he rfl]
  generalize divEven (scaled num den e).1 (scaled num den e).2 = k at *
  by_cases hlarge : infinityBits ≤ magnitudeBits k e
  · left
    rw [Nat.min_eq_right hlarge, value?_infinity]
  right
  have hgreatest : e ≤ 971 := by
    unfold magnitudeBits at hlarge
    omega
  rw [Nat.min_eq_left (Nat.le_of_not_le hlarge)]
  by_cases hk : k = 2 ^ 53
  · -- rounded up to a power of two, which has half the coefficient
    have hbits : magnitudeBits k e = magnitudeBits (2 ^ 52) (e + 1) := by
      unfold magnitudeBits
      omega
    have hr : InRange (2 ^ 52) (e + 1) := by
      unfold magnitudeBits at hlarge
      exact ⟨by omega, by omega, by omega, .inr le_rfl⟩
    have hpow : (2 : ℚ) ^ (e + 1) = 2 ^ e * 2 := zpow_add_one₀ (by norm_num) e
    have hcoef : signed negative (2 ^ 53) = signed negative (2 ^ 52) * 2 := signed_mul negative (2 ^ 52) 2
    rw [hbits, value?_ofMagnitude negative hr, hk, hpow, hcoef]
    push_cast
    congr 1
    ring
  · exact value?_ofMagnitude negative ⟨by omega, by omega, hgreatest, hge⟩

theorem value?_ofRatio_zero (negative : Bool) (den : Nat) : value? (ofRatio negative 0 den) = some 0 := by
  have hr : InRange 0 (-1074) := ⟨by decide, le_rfl, by decide, .inl rfl⟩
  have hbits : ratioBits 0 den = magnitudeBits 0 (-1074) := rfl
  rw [ofRatio, hbits, value?_ofMagnitude negative hr, signed_zero, Int.cast_zero, zero_mul]

/-! ## Whole numbers -/

/-- A float that has no fraction: a whole number, an infinity or NaN. -/
def Integral (x : Float) : Prop :=
  ∀ r, value? x = some r → ∃ k : ℤ, r = k

/-- **The float nearest to a whole number has no fraction.** -/
theorem integral_ofRatio (negative : Bool) (n : Nat) : Integral (ofRatio negative n 1) := by
  intro r h
  by_cases hn : n = 0
  · rw [hn, value?_ofRatio_zero] at h
    exact ⟨0, by rw [← Option.some.inj h, Int.cast_zero]⟩
  obtain ⟨e, he⟩ : ∃ e, max (log2Ratio n 1 - 52) (-1074) = e := ⟨_, rfl⟩
  rcases value?_ofRatio negative hn one_ne_zero he with hnone | hsome
  · rw [hnone] at h
    cases h
  rw [hsome] at h
  obtain rfl := Option.some.inj h
  by_cases hexp : 0 ≤ e
  · obtain ⟨k, rfl⟩ := Int.eq_ofNat_of_zero_le hexp
    exact ⟨signed negative (divEven (scaled n 1 k).1 (scaled n 1 k).2) * 2 ^ k, by push_cast; rfl⟩
  · -- a number of fewer than 53 bits is not rounded
    have hden : (scaled n 1 e).2 = 1 := by
      show 1 * 2 ^ e.toNat = 1
      rw [Int.toNat_of_nonpos (by omega), Nat.pow_zero]
    have hnum : (scaled n 1 e).1 = n * 2 ^ (-e).toNat := rfl
    have hpow : (2 : ℚ) ^ (-e).toNat * 2 ^ e = 1 := by
      rw [← zpow_natCast, Int.toNat_of_nonneg (by omega), ← zpow_add₀ (by norm_num), neg_add_cancel, zpow_zero]
    refine ⟨signed negative n, ?_⟩
    rw [hden, divEven_of_dvd one_pos (Nat.mod_one _), Nat.div_one, hnum, signed_mul]
    push_cast
    rw [mul_assoc, hpow, mul_one]

theorem integral_ofInt64 (n : Int64) : Integral (ofInt64 n) :=
  integral_ofRatio _ _

end RowQuery.Number
