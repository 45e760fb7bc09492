import Mathlib
import RowQuery.Number.Shortest
import RowQuery.Proofs.Number.Bits

/-!
# The float nearest to a quotient

The bits that `ratioBits` finds for a quotient that lies in the interval `around` a float are those of the
float (`ratioBits_of_mem`). Quotients are compared as rationals.
-/

namespace RowQuery.Number

variable {num den coef : Nat} {exp : Int}

/-! ## Powers -/

theorem pow_toNat (b : ℚ) (hb : b ≠ 0) (e : Int) : b ^ e.toNat = b ^ e * b ^ (-e).toNat := by
  have he : (e.toNat : Int) = e + (-e).toNat := by omega
  rw [← zpow_natCast, ← zpow_natCast, he, zpow_add₀ hb]

theorem scaled_div (num den : Nat) (e : Int) :
    ((scaled num den e).1 : ℚ) / (scaled num den e).2 = num / den / 2 ^ e := by
  have h : ((2 : ℚ) ^ (-e).toNat) ≠ 0 := by positivity
  have h2 : ((2 : ℚ) ^ e) ≠ 0 := by positivity
  simp only [scaled]
  push_cast
  rw [pow_toNat 2 (by norm_num) e]
  by_cases hd : (den : ℚ) = 0
  · simp [hd]
  · field_simp

theorem scaled_pos (num : Nat) (hd : 0 < den) (e : Int) : 0 < (scaled num den e).2 := by
  simp only [scaled]
  positivity

/-! ## Exponents -/

theorem log2_le_cast {n : Nat} (h : n ≠ 0) : (2 : ℚ) ^ (n.log2 : Int) ≤ n := by
  rw [zpow_natCast]
  exact_mod_cast (Nat.le_log2 h).mp (Nat.le_refl n.log2)

theorem cast_lt_log2 (n : Nat) : (n : ℚ) < 2 ^ (n.log2 + 1 : Int) := by
  have : n < 2 ^ (n.log2 + 1) := Nat.lt_log2_self
  rw [← Nat.cast_succ, zpow_natCast]
  exact_mod_cast this

theorem log2Ratio_spec (hn : num ≠ 0) (hd : den ≠ 0) :
    (2 : ℚ) ^ log2Ratio num den ≤ num / den ∧ (num : ℚ) / den < 2 ^ (log2Ratio num den + 1) := by
  have hdpos : (0 : ℚ) < den := by exact_mod_cast Nat.pos_of_ne_zero hd
  have h2 : (2 : ℚ) ≠ 0 := by norm_num
  let e : Int := num.log2 - den.log2
  have hupper : (num : ℚ) / den < 2 ^ (e + 1) := by
    rw [div_lt_iff₀ hdpos]
    calc (num : ℚ) < 2 ^ (num.log2 + 1 : Int) := cast_lt_log2 num
      _ = 2 ^ (e + 1) * 2 ^ (den.log2 : Int) := by rw [← zpow_add₀ h2]; congr 1; omega
      _ ≤ 2 ^ (e + 1) * den := by
        exact mul_le_mul_of_nonneg_left (log2_le_cast hd) (by positivity)
  have hlower : (2 : ℚ) ^ (e - 1) ≤ num / den := by
    rw [le_div_iff₀ hdpos]
    calc (2 : ℚ) ^ (e - 1) * den ≤ 2 ^ (e - 1) * 2 ^ (den.log2 + 1 : Int) :=
          mul_le_mul_of_nonneg_left (cast_lt_log2 den).le (by positivity)
      _ = 2 ^ (num.log2 : Int) := by rw [← zpow_add₀ h2]; congr 1; omega
      _ ≤ num := log2_le_cast hn
  have hscaled := scaled_div num den e
  have hspos : (0 : ℚ) < (scaled num den e).2 := by
    exact_mod_cast scaled_pos num (Nat.pos_of_ne_zero hd) e
  have hiff : (scaled num den e).2 ≤ (scaled num den e).1 ↔ (2 : ℚ) ^ e ≤ num / den := by
    have hpow : (0 : ℚ) < 2 ^ e := by positivity
    rw [← Nat.cast_le (α := ℚ), ← one_le_div hspos, hscaled, one_le_div hpow]
  have hdef : log2Ratio num den = if (scaled num den e).2 ≤ (scaled num den e).1 then e else e - 1 := rfl
  rw [hdef]
  split
  next h => exact ⟨hiff.mp h, hupper⟩
  next h =>
    refine ⟨hlower, ?_⟩
    rw [hiff, not_le] at h
    simpa using h

theorem log2Ratio_eq {e : Int} (hn : num ≠ 0) (hd : den ≠ 0) (h1 : (2 : ℚ) ^ e ≤ num / den)
    (h2 : (num : ℚ) / den < 2 ^ (e + 1)) : log2Ratio num den = e := by
  obtain ⟨h3, h4⟩ := log2Ratio_spec hn hd
  have h5 : log2Ratio num den < e + 1 :=
    (zpow_lt_zpow_iff_right₀ (by norm_num : (1 : ℚ) < 2)).mp (h3.trans_lt h2)
  have h6 : e < log2Ratio num den + 1 :=
    (zpow_lt_zpow_iff_right₀ (by norm_num : (1 : ℚ) < 2)).mp (h1.trans_lt h4)
  omega

/-- The exponent of the last place of a float, from the size of a quotient in units of it. -/
theorem exponent_eq {e : Int} (hn : num ≠ 0) (hd : den ≠ 0) (hleast : -1074 ≤ e)
    (hlower : (2 : ℚ) ^ 52 ≤ num / den / 2 ^ e ∨ e = -1074)
    (hupper : (num : ℚ) / den / 2 ^ e < 2 ^ 53) : max (log2Ratio num den - 52) (-1074) = e := by
  have hpow : (0 : ℚ) < 2 ^ e := by positivity
  have hshift : ∀ k : Nat, (2 : ℚ) ^ (e + (k : Int)) = 2 ^ k * 2 ^ e := fun k => by
    rw [zpow_add₀ (by norm_num), zpow_natCast, mul_comm]
  have hupper : (num : ℚ) / den < 2 ^ (e + 53) := by
    rw [div_lt_iff₀ hpow] at hupper
    exact hupper.trans_eq (hshift 53).symm
  rcases hlower with hlower | rfl
  · have hlower : (2 : ℚ) ^ (e + 52) ≤ num / den := by
      rw [le_div_iff₀ hpow] at hlower
      exact (hshift 52).trans_le hlower
    have hlog := log2Ratio_eq hn hd hlower (by rw [add_assoc]; exact hupper)
    omega
  · have hlt : log2Ratio num den < -1074 + 53 :=
      (zpow_lt_zpow_iff_right₀ (by norm_num : (1 : ℚ) < 2)).mp
        ((log2Ratio_spec hn hd).1.trans_lt hupper)
    omega

/-! ## Rounding -/

/-- The whole number at most a half away; at exactly a half it is the even one. -/
theorem divEven_eq {n d k : Nat} (hd : 0 < d) (hlow : 2 * k * d ≤ 2 * n + d)
    (hhigh : 2 * n ≤ 2 * k * d + d)
    (hodd : k % 2 = 1 → 2 * k * d ≠ 2 * n + d ∧ 2 * n ≠ 2 * k * d + d) :
    divEven n d = k := by
  have hdiv : n = d * (n / d) + n % d := (Nat.div_add_mod n d).symm
  have hmod := Nat.mod_lt n hd
  simp only [divEven]
  generalize n / d = q at *
  generalize n % d = r at *
  subst hdiv
  have hle : q ≤ k := by
    by_contra hlt
    have : (k + 1) * d ≤ q * d := Nat.mul_le_mul_right d (by omega)
    nlinarith
  have hge : k ≤ q + 1 := by
    by_contra hlt
    have : (q + 2) * d ≤ k * d := Nat.mul_le_mul_right d (by omega)
    nlinarith
  rcases Nat.lt_or_eq_of_le hle with hlt | rfl
  · -- the quotient is at least a half behind the whole number below
    obtain rfl : k = q + 1 := by omega
    have hr : d ≤ 2 * r := by nlinarith
    rw [if_pos]
    rcases Nat.lt_or_eq_of_le hr with hr | rfl
    · exact .inl hr
    · refine .inr ⟨rfl, ?_⟩
      by_contra heven
      exact (hodd (by omega)).1 (by ring)
  · have hr : 2 * r ≤ d := by nlinarith
    rw [if_neg]
    rintro (hlt | ⟨rfl, hq⟩)
    · omega
    · exact (hodd hq).2 (by ring)

theorem divEven_of_div {n d k : Nat} (hd : 0 < d) (hlow : (k - 1 / 2 : ℚ) ≤ n / d)
    (hhigh : (n : ℚ) / d ≤ k + 1 / 2)
    (hodd : k % 2 = 1 → (k - 1 / 2 : ℚ) < n / d ∧ (n : ℚ) / d < k + 1 / 2) : divEven n d = k := by
  have hdpos : (0 : ℚ) < d := by exact_mod_cast hd
  have hscale : (n : ℚ) = n / d * d := by field_simp
  refine divEven_eq hd ?_ ?_ fun hk => ⟨fun heq => ?_, fun heq => ?_⟩
  · have : (2 * k * d : ℚ) ≤ 2 * n + d := by nlinarith
    exact_mod_cast this
  · have : (2 * n : ℚ) ≤ 2 * k * d + d := by nlinarith
    exact_mod_cast this
  · have : (2 * k * d : ℚ) = 2 * n + d := by exact_mod_cast heq
    nlinarith [(hodd hk).1]
  · have : (2 * n : ℚ) = 2 * k * d + d := by exact_mod_cast heq
    nlinarith [(hodd hk).2]

/-! ## The interval around a float -/

/-- Whether a quotient lies in the interval. -/
def Around.Contains (a : Around) (q : ℚ) : Prop :=
  if a.closed then a.low * 2 ^ a.exp ≤ q ∧ q ≤ a.high * 2 ^ a.exp
  else a.low * 2 ^ a.exp < q ∧ q < a.high * 2 ^ a.exp

theorem Around.Contains.le {a : Around} {q : ℚ} (h : a.Contains q) :
    a.low * 2 ^ a.exp ≤ q ∧ q ≤ a.high * 2 ^ a.exp := by
  unfold Contains at h
  split at h
  · exact h
  · exact ⟨h.1.le, h.2.le⟩

theorem Around.Contains.lt {a : Around} {q : ℚ} (h : a.Contains q) (hopen : a.closed = false) :
    a.low * 2 ^ a.exp < q ∧ q < a.high * 2 ^ a.exp := by
  unfold Contains at h
  rwa [if_neg (by simp [hopen])] at h

/-- A quotient in the interval, in units of the float's last place. -/
theorem scaled_of_mem {coef : Nat} {exp : Int} {q : ℚ}
    (h : (around coef exp).Contains q) :
    (coef - 1 / 2 : ℚ) ≤ q / 2 ^ exp ∧ q / 2 ^ exp ≤ coef + 1 / 2 ∧
      (coef % 2 = 1 → (coef - 1 / 2 : ℚ) < q / 2 ^ exp ∧ q / 2 ^ exp < coef + 1 / 2) ∧
      (coef = 2 ^ 52 → -1074 < exp → (coef - 1 / 4 : ℚ) ≤ q / 2 ^ exp) := by
  have hpow : (0 : ℚ) < 2 ^ exp := by positivity
  have hquarter : (2 : ℚ) ^ (exp - 2) = 2 ^ exp / 4 := by
    rw [zpow_sub₀ (by norm_num)]
    norm_num
  have hlow : (4 * coef - 2 : ℚ) ≤ ((around coef exp).low : ℚ) := by
    simp only [around]
    have : 4 * coef ≤ (4 * coef - if coef = 2 ^ 52 ∧ -1074 < exp then 1 else 2) + 2 := by
      split <;> omega
    have : ((4 * coef : Nat) : ℚ) ≤ ((4 * coef - if coef = 2 ^ 52 ∧ -1074 < exp then 1 else 2) + 2 : Nat) :=
      Nat.cast_le.mpr this
    push_cast at this ⊢
    linarith
  have hhigh : ((around coef exp).high : ℚ) = 4 * coef + 2 := by simp [around]
  have hexp : (around coef exp).exp = exp - 2 := rfl
  obtain ⟨h1, h2⟩ := h.le
  rw [hexp, hquarter] at h1 h2
  rw [hhigh] at h2
  refine ⟨?_, ?_, fun hodd => ?_, fun hc' he => ?_⟩
  · rw [le_div_iff₀ hpow]
    nlinarith
  · rw [div_le_iff₀ hpow]
    nlinarith
  · obtain ⟨h1, h2⟩ := h.lt (by simp [around, hodd])
    rw [hexp, hquarter] at h1 h2
    rw [hhigh] at h2
    rw [lt_div_iff₀ hpow, div_lt_iff₀ hpow]
    constructor <;> nlinarith
  · have hlow' : (4 * coef - 1 : ℚ) = ((around coef exp).low : ℚ) := by
      simp only [around, hc', he, and_self, if_true]
      norm_num
    rw [le_div_iff₀ hpow]
    rw [← hlow'] at h1
    nlinarith

/-- Bits of a quotient, given the exponent and the coefficient that it rounds to. -/
theorem ratioBits_eq {e : Int} {k : Nat} (hn : num ≠ 0)
    (he : max (log2Ratio num den - 52) (-1074) = e)
    (hk : divEven (scaled num den e).1 (scaled num den e).2 = k) :
    ratioBits num den = min (magnitudeBits k e) infinityBits := by
  rw [ratioBits, if_neg hn, he]
  show min ((e + 1074).toNat * 2 ^ 52 + divEven (scaled num den e).1 (scaled num den e).2) _ = _
  rw [hk]
  rfl

/-- Bits of a quotient that is at most half a unit away from `k` units in the last place. -/
theorem ratioBits_of_near {e : Int} {k : Nat} (hn : num ≠ 0) (hd : den ≠ 0) (hleast : -1074 ≤ e)
    (hlower : (2 : ℚ) ^ 52 ≤ num / den / 2 ^ e ∨ e = -1074)
    (hupper : (num : ℚ) / den / 2 ^ e < 2 ^ 53)
    (hlow : (k - 1 / 2 : ℚ) ≤ num / den / 2 ^ e) (hhigh : (num : ℚ) / den / 2 ^ e ≤ k + 1 / 2)
    (hodd : k % 2 = 1 →
      (k - 1 / 2 : ℚ) < num / den / 2 ^ e ∧ (num : ℚ) / den / 2 ^ e < k + 1 / 2) :
    ratioBits num den = min (magnitudeBits k e) infinityBits := by
  rw [← scaled_div num den e] at hlow hhigh hodd
  exact ratioBits_eq hn (exponent_eq hn hd hleast hlower hupper)
    (divEven_of_div (scaled_pos num (Nat.pos_of_ne_zero hd) e) hlow hhigh hodd)

theorem magnitudeBits_le (hr : InRange coef exp) : magnitudeBits coef exp ≤ infinityBits := by
  obtain ⟨h1, h2, h3, -⟩ := hr
  simp only [magnitudeBits, infinityBits]
  omega

/-- **The float nearest to a quotient in its interval.** -/
theorem ratioBits_of_mem (hr : InRange coef exp) (hn : num ≠ 0) (hd : den ≠ 0)
    (h : (around coef exp).Contains ((num : ℚ) / den)) :
    ratioBits num den = magnitudeBits coef exp := by
  obtain ⟨hlow, hhigh, hodd, hedge⟩ := scaled_of_mem h
  rw [← Nat.min_eq_left (magnitudeBits_le hr)]
  by_cases hbinade : (2 : ℚ) ^ 52 ≤ num / den / 2 ^ exp ∨ exp = -1074
  · have hcoef : (coef : ℚ) ≤ 2 ^ 53 - 1 := by
      have : coef + 1 ≤ 2 ^ 53 := hr.coef_lt
      have : ((coef + 1 : Nat) : ℚ) ≤ ((2 ^ 53 : Nat) : ℚ) := Nat.cast_le.mpr this
      push_cast at this
      linarith
    exact ratioBits_of_near hn hd hr.least hbinade (by linarith) hlow hhigh hodd
  · -- the quotient lies below a power of two, where floats are twice as dense
    push Not at hbinade
    obtain ⟨hlt, hne⟩ := hbinade
    have hexp : -1074 < exp := lt_of_le_of_ne hr.least (Ne.symm hne)
    obtain rfl : coef = 2 ^ 52 := by
      have hfull : 2 ^ 52 ≤ coef := hr.full.resolve_left hne
      have : (coef : ℚ) < 2 ^ 52 + 1 := by linarith
      have : coef < 2 ^ 52 + 1 := by exact_mod_cast this
      omega
    have hquarter := hedge rfl hexp
    have hdouble : (num : ℚ) / den / 2 ^ (exp - 1) = 2 * (num / den / 2 ^ exp) := by
      have hhalf : (2 : ℚ) ^ exp = 2 * 2 ^ (exp - 1) := by
        rw [zpow_sub₀ (by norm_num)]
        field_simp
      rw [hhalf]
      field_simp
    have hbits : magnitudeBits (2 ^ 53) (exp - 1) = magnitudeBits (2 ^ 52) exp := by
      simp only [magnitudeBits]
      omega
    generalize (num : ℚ) / den / 2 ^ exp = q at *
    norm_num at hquarter hlt
    rw [← hbits]
    refine ratioBits_of_near hn hd (by omega) (.inl ?_) ?_ ?_ ?_ fun hodd => ?_
    case refine_5 => norm_num at hodd
    all_goals
      rw [hdouble]
      norm_num
      linarith

end RowQuery.Number
