import RowQuery.Proofs.Number.Nearest

/-!
# Rounding keeps the order

A greater quotient never has the smaller nearest float (`ratioBits_mono`), and so a greater integer never
has the smaller nearest float (`key_ofInt_mono`): rounding may make integers equal but does not swap them.
-/

namespace RowQuery.Number

variable {n d n' d' num den num' den' : Nat}

theorem divEven_mono (hd : 0 < d) (hd' : 0 < d') (h : (n : ℚ) / d ≤ n' / d') :
    divEven n d ≤ divEven n' d' := by
  have hcross : n * d' ≤ n' * d := by
    rw [div_le_div_iff₀ (by exact_mod_cast hd) (by exact_mod_cast hd')] at h
    exact_mod_cast h
  have hquotient : n / d ≤ n' / d' := by
    rw [Nat.le_div_iff_mul_le hd']
    refine Nat.le_of_mul_le_mul_right (?_ : n / d * d' * d ≤ n' * d) hd
    calc n / d * d' * d = n / d * d * d' := by ring
      _ ≤ n * d' := Nat.mul_le_mul_right d' (Nat.div_mul_le_self n d)
      _ ≤ n' * d := hcross
  rcases Nat.lt_or_eq_of_le hquotient with hlt | heq
  · exact (divEven_le n d).trans ((Nat.succ_le_of_lt hlt).trans (le_divEven n' d'))
  · -- both lie between the same whole numbers, so the remainders decide
    have hrest : n % d * d' ≤ n' % d' * d := by
      have hn := Nat.div_add_mod n d
      have hn' := Nat.div_add_mod n' d'
      rw [heq] at hn
      nlinarith
    simp only [divEven]
    rw [heq]
    by_cases hup : d < 2 * (n % d) ∨ 2 * (n % d) = d ∧ n' / d' % 2 = 1
    · rw [if_pos hup, if_pos]
      rcases hup with hup | ⟨hhalf, hodd⟩
      · left
        by_contra hle
        nlinarith
      · rcases Nat.lt_or_ge d' (2 * (n' % d')) with hlt | hge
        · exact .inl hlt
        · refine .inr ⟨le_antisymm hge ?_, hodd⟩
          by_contra hlt
          nlinarith
    · rw [if_neg hup]
      split <;> omega

theorem log2Ratio_mono (hn : num ≠ 0) (hd : den ≠ 0) (hn' : num' ≠ 0) (hd' : den' ≠ 0)
    (h : (num : ℚ) / den ≤ num' / den') : log2Ratio num den ≤ log2Ratio num' den' := by
  have hlt : (2 : ℚ) ^ log2Ratio num den < 2 ^ (log2Ratio num' den' + 1) :=
    (log2Ratio_spec hn hd).1.trans_lt (h.trans_lt (log2Ratio_spec hn' hd').2)
  have := (zpow_lt_zpow_iff_right₀ (by norm_num : (1 : ℚ) < 2)).mp hlt
  omega

/-- Coefficients have 53 bits, or are the power of two behind those. -/
theorem divEven_scaled_le {e : Int} (hn : num ≠ 0) (hd : den ≠ 0) (he : log2Ratio num den - 52 ≤ e) :
    divEven (scaled num den e).1 (scaled num den e).2 ≤ 2 ^ 53 := by
  have hpos := scaled_pos num (Nat.pos_of_ne_zero hd) e
  have hlt : ((scaled num den e).1 : ℚ) / (scaled num den e).2 < 2 ^ 53 := by
    rw [scaled_div, div_lt_iff₀ (by positivity)]
    calc (num : ℚ) / den < 2 ^ (log2Ratio num den + 1) := (log2Ratio_spec hn hd).2
      _ ≤ 2 ^ (53 + e) := zpow_le_zpow_right₀ (by norm_num) (by omega)
      _ = 2 ^ 53 * 2 ^ e := by rw [zpow_add₀ (by norm_num)]; norm_num
  rw [div_lt_iff₀ (by exact_mod_cast hpos)] at hlt
  have hlt : (scaled num den e).1 < 2 ^ 53 * (scaled num den e).2 := by exact_mod_cast hlt
  have hdiv : (scaled num den e).1 / (scaled num den e).2 < 2 ^ 53 := (Nat.div_lt_iff_lt_mul hpos).mpr hlt
  have := divEven_le (scaled num den e).1 (scaled num den e).2
  omega

/-- Above the least exponent, coefficients have no fewer than 53 bits. -/
theorem le_divEven_scaled {e : Int} (hn : num ≠ 0) (hd : den ≠ 0) (he : e = log2Ratio num den - 52) :
    2 ^ 52 ≤ divEven (scaled num den e).1 (scaled num den e).2 := by
  have hpos := scaled_pos num (Nat.pos_of_ne_zero hd) e
  have hle : (2 : ℚ) ^ 52 ≤ (scaled num den e).1 / (scaled num den e).2 := by
    rw [scaled_div, le_div_iff₀ (by positivity)]
    calc (2 : ℚ) ^ 52 * 2 ^ e = 2 ^ (52 + e) := by rw [zpow_add₀ (by norm_num)]; norm_num
      _ = 2 ^ log2Ratio num den := by rw [he]; congr 1; ring
      _ ≤ num / den := (log2Ratio_spec hn hd).1
  rw [le_div_iff₀ (by exact_mod_cast hpos)] at hle
  have hle : 2 ^ 52 * (scaled num den e).2 ≤ (scaled num den e).1 := by exact_mod_cast hle
  exact ((Nat.le_div_iff_mul_le hpos).mpr hle).trans (le_divEven _ _)

theorem divEven_scaled_bounds {e : Int} (hn : num ≠ 0) (hd : den ≠ 0)
    (he : max (log2Ratio num den - 52) (-1074) = e) :
    divEven (scaled num den e).1 (scaled num den e).2 ≤ 2 ^ 53 ∧
      (e = -1074 ∨ 2 ^ 52 ≤ divEven (scaled num den e).1 (scaled num den e).2) := by
  refine ⟨divEven_scaled_le hn hd (by omega), ?_⟩
  by_cases hleast : e = -1074
  · exact .inl hleast
  · exact .inr (le_divEven_scaled hn hd (by omega))

/-- **The nearest float of a greater quotient is not smaller.** -/
theorem ratioBits_mono (hd : den ≠ 0) (hd' : den' ≠ 0) (h : (num : ℚ) / den ≤ num' / den') :
    ratioBits num den ≤ ratioBits num' den' := by
  by_cases hn : num = 0
  · simp [ratioBits, hn]
  have hn' : num' ≠ 0 := by
    rintro rfl
    have hpos : (0 : ℚ) < num / den := by positivity
    simp only [Nat.cast_zero, zero_div] at h
    exact absurd hpos (not_lt.mpr h)
  have hlog := log2Ratio_mono hn hd hn' hd' h
  obtain ⟨e, he⟩ : ∃ e, max (log2Ratio num den - 52) (-1074) = e := ⟨_, rfl⟩
  obtain ⟨e', he'⟩ : ∃ e', max (log2Ratio num' den' - 52) (-1074) = e' := ⟨_, rfl⟩
  rw [ratioBits_eq hn he rfl, ratioBits_eq hn' he' rfl]
  refine min_le_min_right _ ?_
  unfold magnitudeBits
  rcases Int.lt_or_eq_of_le (show e ≤ e' by omega) with hlt | rfl
  · have hcoef := divEven_scaled_le hn hd (e := e) (by omega)
    have hcoef' := le_divEven_scaled hn' hd' (e := e') (by omega)
    omega
  · refine Nat.add_le_add_left (divEven_mono (scaled_pos num (Nat.pos_of_ne_zero hd) e)
      (scaled_pos num' (Nat.pos_of_ne_zero hd') e) ?_) _
    rw [scaled_div, scaled_div]
    exact div_le_div_of_nonneg_right h (by positivity)

theorem ratioBits_le (num den : Nat) : ratioBits num den ≤ infinityBits := by
  unfold ratioBits
  split
  · exact Nat.zero_le _
  · exact Nat.min_le_right _ _

/-! ## Keys -/

theorem key_ofMagnitude (negative : Bool) {magnitude : Nat} (h : magnitude ≤ infinityBits) :
    key (ofMagnitude negative magnitude) = if negative then -(magnitude : Int) else magnitude := by
  have hbound : infinityBits = 2047 * 2 ^ 52 := rfl
  simp only [key, toBits_ofMagnitude negative h]
  cases negative with
  | true =>
    simp only [signBit, if_true]
    rw [if_pos (by omega)]
    omega
  | false =>
    simp only [signBit, Bool.false_eq_true, if_false]
    rw [if_neg (by omega)]
    omega

theorem natAbs_key (x : Float) : (key x).natAbs = x.toBits.toNat % 2 ^ 63 := by
  simp only [key]
  split <;> omega

/-- Keys beyond the infinities are those of NaNs. -/
theorem isNaN_iff {x : Float} : isNaN x = true ↔ infinityBits < (key x).natAbs := by
  have hlt : x.toBits.toNat < 2 ^ 64 := x.toBits.toNat_lt
  have hbound : infinityBits = 2047 * 2 ^ 52 := rfl
  rw [natAbs_key, isNaN, decide_eq_true_eq]
  simp only [decode]
  split
  next hlast =>
    split
    next => exact iff_of_false (by simp) (by omega)
    next => exact iff_of_true rfl (by omega)
  next hlast =>
    split
    all_goals exact iff_of_false (by simp) (by omega)

theorem key_ofInt (n : Int) :
    key (ofInt n) = if n < 0 then -(ratioBits n.natAbs 1 : Int) else ratioBits n.natAbs 1 := by
  rw [ofInt, ofRatio, key_ofMagnitude _ (ratioBits_le _ _)]
  simp only [decide_eq_true_eq]

theorem isNaN_ofInt (n : Int) : isNaN (ofInt n) = false := by
  rw [Bool.eq_false_iff, ne_eq, isNaN_iff, key_ofInt]
  have := ratioBits_le n.natAbs 1
  split <;> omega

theorem isNaN_ofInt64 (n : Int64) : isNaN (ofInt64 n) = false :=
  isNaN_ofInt n.toInt

/-- **The nearest float of a greater integer is not smaller.** -/
theorem key_ofInt_mono {m n : Int} (h : m ≤ n) : key (ofInt m) ≤ key (ofInt n) := by
  have hmono : ∀ {i j : Nat}, i ≤ j → ratioBits i 1 ≤ ratioBits j 1 := fun hij =>
    ratioBits_mono one_ne_zero one_ne_zero (by simpa using hij)
  rw [key_ofInt, key_ofInt]
  split <;> split
  · have := hmono (show n.natAbs ≤ m.natAbs by omega)
    omega
  · omega
  · omega
  · have := hmono (show m.natAbs ≤ n.natAbs by omega)
    omega

/-- Zero is the one integer whose nearest float is zero. -/
theorem isZero_ofInt64 {n : Int64} : isZero (ofInt64 n) = true ↔ n = 0 := by
  rw [isZero, decide_eq_true_iff, ofInt64, ← Int64.toInt_inj, Int64.toInt_zero]
  constructor
  · intro hkey
    by_contra hne
    have hone : ((1 : Nat) : ℚ) ≤ n.toInt.natAbs := by exact_mod_cast (by omega : 1 ≤ n.toInt.natAbs)
    have hle : ratioBits 1 1 ≤ ratioBits n.toInt.natAbs 1 :=
      ratioBits_mono one_ne_zero one_ne_zero (div_le_div_of_nonneg_right hone (by simp))
    have hpos : 0 < ratioBits 1 1 := by decide
    rw [key_ofInt] at hkey
    split at hkey <;> omega
  · intro hzero
    rw [hzero]
    decide

end RowQuery.Number
