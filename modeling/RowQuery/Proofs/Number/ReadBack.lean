import RowQuery.Proofs.Number.Layout
import RowQuery.Proofs.Number.Nearest

/-!
# Written floats read back

The search for the shortest digits of a float always ends at a decimal in the interval around the float
(`shortest_mem`), and a decimal in that interval reads as the float (`ofDecimal_of_mem`). So the tagged
text of a finite float reads back as that float (`decimal_tagged`, `float_tagged`).
-/

namespace RowQuery.Number

variable {a : Around} {tie : Tie} {n coef : Nat} {place exp : Int}

/-! ## Powers of ten and of two -/

/-- A power of ten below a power of two, as `30103 / 100000` is about the logarithm of two. -/
theorem ten_zpow_le {q s : Int} (h : 100000 * q ≤ 30103 * s) (h1 : -1100 ≤ s) (h2 : s ≤ 1100) :
    (10 : ℚ) ^ q ≤ 2 ^ (s + 6) := by
  rcases Int.le_total 0 q with hq | hq
  · obtain ⟨k, rfl⟩ := Int.eq_ofNat_of_zero_le hq
    obtain ⟨t, ht⟩ := Int.eq_ofNat_of_zero_le (show 0 ≤ s + 6 by omega)
    rw [ht, zpow_natCast, zpow_natCast]
    refine (pow_le_pow_iff_left₀ (n := 59) (by positivity) (by positivity) (by decide)).mp ?_
    calc ((10 : ℚ) ^ k) ^ 59 = (10 ^ 59) ^ k := by rw [← pow_mul, ← pow_mul, mul_comm]
      _ ≤ (2 ^ 196) ^ k := pow_le_pow_left₀ (by norm_num) (by norm_num) k
      _ = 2 ^ (196 * k) := by rw [← pow_mul]
      _ ≤ 2 ^ (t * 59) := pow_le_pow_right₀ (by norm_num) (by omega)
      _ = (2 ^ t) ^ 59 := by rw [← pow_mul]
  · obtain ⟨k, hk⟩ := Int.eq_ofNat_of_zero_le (show 0 ≤ -q by omega)
    rcases Int.le_total 0 (s + 6) with hs | hs
    · calc (10 : ℚ) ^ q ≤ 1 := zpow_le_one_of_nonpos₀ (by norm_num) hq
        _ ≤ 2 ^ (s + 6) := one_le_zpow₀ (by norm_num) hs
    · obtain ⟨t, ht⟩ := Int.eq_ofNat_of_zero_le (show 0 ≤ -(s + 6) by omega)
      have hq' : q = -(k : Int) := by omega
      have hs' : s + 6 = -(t : Int) := by omega
      rw [hq', hs', zpow_neg, zpow_neg, zpow_natCast, zpow_natCast]
      refine inv_anti₀ (by positivity) ?_
      refine (pow_le_pow_iff_left₀ (n := 28) (by positivity) (by positivity) (by decide)).mp ?_
      calc ((2 : ℚ) ^ t) ^ 28 = 2 ^ (t * 28) := by rw [← pow_mul]
        _ ≤ 2 ^ (93 * k) := pow_le_pow_right₀ (by norm_num) (by omega)
        _ = (2 ^ 93) ^ k := by rw [← pow_mul]
        _ ≤ (10 ^ 28) ^ k := pow_le_pow_left₀ (by norm_num) (by norm_num) k
        _ = (10 ^ k) ^ 28 := by rw [← pow_mul, ← pow_mul, mul_comm]

/-- On the last grid the steps are shorter than half of the float's last place. -/
theorem ten_zpow_lt (hr : InRange coef exp) (hc : coef ≠ 0) :
    (10 : ℚ) ^ (leadingPlace coef exp - 20) < 2 ^ (exp - 1) := by
  have hlog : coef.log2 < 53 := (Nat.log2_lt hc).2 hr.coef_lt
  have h1 := hr.least
  have h2 := hr.greatest
  have hten : (2 : ℚ) ^ (59 : Int) < 10 ^ (18 : Int) := by norm_num
  let s : Int := coef.log2 + exp
  have hq := ten_zpow_le (q := s * 30103 / 100000) (s := s) (by omega) (by omega) (by omega)
  have hplace : leadingPlace coef exp - 20 = s * 30103 / 100000 - 18 := by
    simp only [leadingPlace, s]
    omega
  calc (10 : ℚ) ^ (leadingPlace coef exp - 20) = 10 ^ (s * 30103 / 100000) / 10 ^ (18 : Int) := by
        rw [hplace, zpow_sub₀ (by norm_num)]
    _ < 2 ^ (s + 6) / 2 ^ (59 : Int) := by
        refine div_lt_div₀' hq hten (by positivity) (by positivity)
    _ = 2 ^ (s - 53) := by
        rw [← zpow_sub₀ (by norm_num)]
        congr 1
        ring
    _ ≤ 2 ^ (exp - 1) := zpow_le_zpow_right₀ (by norm_num) (by omega)

/-! ## The search -/

theorem sides_cast (a : Around) (n : Nat) (place : Int) (m : Nat) :
    ((a.sides n place m).1 : ℚ) =
        n * 10 ^ place * (10 ^ (-place).toNat * 2 ^ (-a.exp).toNat) ∧
      ((a.sides n place m).2 : ℚ) =
        m * 2 ^ a.exp * (10 ^ (-place).toNat * 2 ^ (-a.exp).toNat) := by
  simp only [Around.sides]
  push_cast
  rw [pow_toNat 10 (by norm_num) place, pow_toNat 2 (by norm_num) a.exp]
  constructor <;> ring

theorem holds_iff : a.holds n place = true ↔ a.Contains (n * 10 ^ place) := by
  obtain ⟨hx, hlow⟩ := sides_cast a n place a.low
  have hhigh := (sides_cast a n place a.high).2
  have hpos : (0 : ℚ) < 10 ^ (-place).toNat * 2 ^ (-a.exp).toNat := by positivity
  have hdef : a.holds n place =
      if a.closed then
        (a.sides n place a.low).2 ≤ (a.sides n place a.low).1 &&
          (a.sides n place a.low).1 ≤ (a.sides n place a.high).2
      else
        (a.sides n place a.low).2 < (a.sides n place a.low).1 &&
          (a.sides n place a.low).1 < (a.sides n place a.high).2 := rfl
  rw [hdef, Around.Contains]
  split
  · rw [Bool.and_eq_true, decide_eq_true_eq, decide_eq_true_eq, ← Nat.cast_le (α := ℚ),
      ← Nat.cast_le (α := ℚ), hx, hlow, hhigh, mul_le_mul_iff_left₀ hpos, mul_le_mul_iff_left₀ hpos]
  · rw [Bool.and_eq_true, decide_eq_true_eq, decide_eq_true_eq, ← Nat.cast_lt (α := ℚ),
      ← Nat.cast_lt (α := ℚ), hx, hlow, hhigh, mul_lt_mul_iff_left₀ hpos, mul_lt_mul_iff_left₀ hpos]

theorem below_spec (a : Around) (place : Int) :
    (a.below place : ℚ) * 10 ^ place ≤ a.mid * 2 ^ a.exp ∧
      (a.mid : ℚ) * 2 ^ a.exp < (a.below place + 1) * 10 ^ place := by
  obtain ⟨hone, hmid⟩ := sides_cast a 1 place a.mid
  have hpos : (0 : ℚ) < 10 ^ (-place).toNat * 2 ^ (-a.exp).toNat := by positivity
  have hdef : a.below place = (a.sides 1 place a.mid).2 / (a.sides 1 place a.mid).1 := rfl
  have hone_pos : 0 < (a.sides 1 place a.mid).1 := by
    simp only [Around.sides]
    positivity
  have hle := Nat.div_mul_le_self (a.sides 1 place a.mid).2 (a.sides 1 place a.mid).1
  have hlt := Nat.lt_mul_of_div_lt (Nat.lt_succ_self ((a.sides 1 place a.mid).2 / (a.sides 1 place a.mid).1)) hone_pos
  rw [← hdef] at hle hlt
  rw [← Nat.cast_le (α := ℚ)] at hle
  rw [← Nat.cast_lt (α := ℚ)] at hlt
  push_cast at hle hlt
  rw [hone, hmid] at hle hlt
  constructor
  · refine le_of_mul_le_mul_right ?_ hpos
    push_cast at hle
    linarith
  · refine lt_of_mul_lt_mul_right ?_ hpos.le
    push_cast at hlt
    linarith

/-- A grid that is finer than the interval has a point in it. -/
theorem onGrid_ne_none (h : (10 : ℚ) ^ place < 2 ^ (exp - 1)) :
    (around coef exp).onGrid? tie place ≠ none := by
  obtain ⟨hle, hlt⟩ := below_spec (around coef exp) place
  have hexp : (around coef exp).exp = exp - 2 := rfl
  have hhalf : (2 : ℚ) ^ (exp - 1) = 2 * 2 ^ (exp - 2) := by
    have : exp - 1 = 1 + (exp - 2) := by ring
    rw [this, zpow_add₀ (by norm_num), zpow_one]
  have hpow : (0 : ℚ) < 2 ^ (exp - 2) := by positivity
  have hlow : ((around coef exp).low : ℚ) ≤ (around coef exp).mid := by
    have : (around coef exp).low ≤ (around coef exp).mid := by
      simp only [around]
      omega
    exact_mod_cast this
  have hhigh : ((around coef exp).high : ℚ) = (around coef exp).mid + 2 := by simp [around]
  rw [hexp] at hle hlt
  have hmem : (around coef exp).holds ((around coef exp).below place + 1) place = true := by
    rw [holds_iff, Around.Contains, hexp, hhigh]
    push_cast
    have h1 : ((around coef exp).low : ℚ) * 2 ^ (exp - 2) <
        ((around coef exp).below place + 1) * 10 ^ place :=
      (mul_le_mul_of_nonneg_right hlow hpow.le).trans_lt hlt
    have h2 : (((around coef exp).below place : ℚ) + 1) * 10 ^ place <
        ((around coef exp).mid + 2) * 2 ^ (exp - 2) := by
      linarith
    split
    · exact ⟨h1.le, h2.le⟩
    · exact ⟨h1, h2⟩
  simp only [Around.onGrid?, hmem]
  split <;> simp_all

theorem holds_of_onGrid (h : a.onGrid? tie place = some n) : a.holds n place = true := by
  simp only [Around.onGrid?] at h
  split at h
  next h1 h2 =>
    cases h
    split
    · exact h2
    · exact h1
  next h1 h2 => cases h; exact h1
  next h1 h2 => cases h; exact h2
  next => cases h

theorem search_holds (grids : Nat) (h : a.onGrid? tie (place - grids) ≠ none) :
    a.holds (a.search tie (grids + 1) place).1 (a.search tie (grids + 1) place).2 = true := by
  induction grids generalizing place with
  | zero =>
    rw [Around.search]
    split
    next n hn => exact holds_of_onGrid hn
    next hn => exact absurd hn (by simpa using h)
  | succ grids ih =>
    rw [Around.search]
    split
    next n hn => exact holds_of_onGrid hn
    next =>
      refine ih ?_
      have : place - 1 - grids = place - (grids + 1 : Nat) := by omega
      rwa [this]

/-- The shortest digits of a float lie in the interval around it. -/
theorem shortest_mem (hr : InRange coef exp) (hc : coef ≠ 0) (tie : Tie) :
    (around coef exp).Contains
      ((shortest tie coef exp).1 * 10 ^ (shortest tie coef exp).2) :=
  holds_iff.mp (search_holds 20 (onGrid_ne_none (ten_zpow_lt hr hc)))

/-! ## Reading a decimal in the interval -/

/-- Floats and their intervals lie well inside the powers of ten that decimals are cut at. -/
theorem bounds_of_mem {q : ℚ} (hr : InRange coef exp) (hc : coef ≠ 0)
    (h : (around coef exp).Contains q) : (10 : ℚ) ^ (-328 : Int) < q ∧ q < 10 ^ (309 : Int) := by
  obtain ⟨h1, h2⟩ := h.le
  have hexp : (around coef exp).exp = exp - 2 := rfl
  have hlow : (2 : ℚ) ≤ (around coef exp).low := by
    have : 2 ≤ (around coef exp).low := by
      simp only [around]
      split <;> omega
    exact_mod_cast this
  have hhigh : ((around coef exp).high : ℚ) ≤ 2 ^ 55 := by
    have : (around coef exp).high ≤ 2 ^ 55 := by
      have := hr.coef_lt
      simp only [around]
      omega
    exact_mod_cast this
  rw [hexp] at h1 h2
  have hle := hr.least
  have hge := hr.greatest
  constructor
  · have hten := ten_zpow_le (q := -328) (s := -1089) (by decide) (by decide) (by decide)
    have hstep : (2 : ℚ) ^ (-1089 + 6 : Int) < 2 ^ (exp - 2) :=
      zpow_lt_zpow_right₀ (by norm_num) (by omega)
    have hpow : (0 : ℚ) < 2 ^ (exp - 2) := by positivity
    nlinarith
  · calc q ≤ (around coef exp).high * 2 ^ (exp - 2) := h2
      _ ≤ 2 ^ 55 * 2 ^ (969 : Int) := by
          refine mul_le_mul hhigh ?_ (by positivity) (by positivity)
          exact zpow_le_zpow_right₀ (by norm_num) (by omega)
      _ < 10 ^ (309 : Int) := by
          have hnat : 2 ^ 55 * 2 ^ 969 < 10 ^ 309 := by decide +kernel
          have hrat : ((2 ^ 55 * 2 ^ 969 : Nat) : ℚ) < (10 ^ 309 : Nat) := Nat.cast_lt.mpr hnat
          rw [Nat.cast_mul, Nat.cast_pow, Nat.cast_pow, Nat.cast_pow] at hrat
          exact hrat

theorem digits_bounds {n : Nat} (hn : n ≠ 0) :
    (10 : ℚ) ^ ((Nat.toDigits 10 n).length - 1 : Int) ≤ n ∧
      (n : ℚ) < 10 ^ ((Nat.toDigits 10 n).length : Int) := by
  have hpos : 0 < (Nat.toDigits 10 n).length := Nat.length_toDigits_pos
  have hlt : n < 10 ^ (Nat.toDigits 10 n).length :=
    (Nat.length_toDigits_le_iff (by decide) hpos).mp (Nat.le_refl _)
  have hle : 10 ^ ((Nat.toDigits 10 n).length - 1) ≤ n := by
    rcases Nat.eq_zero_or_pos ((Nat.toDigits 10 n).length - 1) with h0 | h0
    · rw [h0]
      omega
    · by_contra hlt
      have := (Nat.length_toDigits_le_iff (by decide) h0).mpr (Nat.lt_of_not_le hlt)
      omega
  constructor
  · have : ((Nat.toDigits 10 n).length - 1 : Int) = ((Nat.toDigits 10 n).length - 1 : Nat) := by omega
    rw [this, zpow_natCast]
    exact_mod_cast hle
  · rw [zpow_natCast]
    exact_mod_cast hlt

/-- **A decimal in the interval around a float reads as that float.** -/
theorem ofDecimal_of_mem (negative : Bool) {c : Nat} {e : Int} (hr : InRange coef exp) (hc : coef ≠ 0)
    (h : (around coef exp).Contains (c * 10 ^ e)) :
    ofDecimal negative c e = ofMagnitude negative (magnitudeBits coef exp) := by
  obtain ⟨hlow, hhigh⟩ := bounds_of_mem hr hc h
  have hc0 : c ≠ 0 := by
    rintro rfl
    have hpos : (0 : ℚ) < 10 ^ (-328 : Int) := by positivity
    rw [Nat.cast_zero, zero_mul] at hlow
    exact absurd hlow hpos.le.not_gt
  obtain ⟨hle, hlt⟩ := digits_bounds hc0
  have hpow : (0 : ℚ) < 10 ^ e := by positivity
  have h10 : (10 : ℚ) ≠ 0 := by norm_num
  have hlead : (10 : ℚ) ^ ((Nat.toDigits 10 c).length + e - 1) ≤ c * 10 ^ e ∧
      (c : ℚ) * 10 ^ e < 10 ^ ((Nat.toDigits 10 c).length + e) := by
    constructor
    · calc (10 : ℚ) ^ ((Nat.toDigits 10 c).length + e - 1)
          = 10 ^ ((Nat.toDigits 10 c).length - 1 : Int) * 10 ^ e := by
            rw [← zpow_add₀ h10]
            congr 1
            ring
        _ ≤ c * 10 ^ e := mul_le_mul_of_nonneg_right hle hpow.le
    · rw [zpow_add₀ h10]
      exact mul_lt_mul_of_pos_right hlt hpow
  have hsmall : ¬ ((Nat.toDigits 10 c).length : Int) + e < -330 := by
    intro hlt
    have : (-328 : Int) < (Nat.toDigits 10 c).length + e :=
      (zpow_lt_zpow_iff_right₀ (by norm_num : (1 : ℚ) < 10)).mp (hlow.trans hlead.2)
    omega
  have hlarge : ¬ 310 < ((Nat.toDigits 10 c).length : Int) + e := by
    intro hlt
    have : ((Nat.toDigits 10 c).length : Int) + e - 1 < 309 :=
      (zpow_lt_zpow_iff_right₀ (by norm_num : (1 : ℚ) < 10)).mp (hlead.1.trans_lt hhigh)
    omega
  rw [ofDecimal, if_neg hc0]
  simp only [if_neg hsmall, if_neg hlarge, ofRatio]
  congr 1
  refine ratioBits_of_mem hr (by positivity) (by positivity) ?_
  have hvalue : ((c * 10 ^ e.toNat : Nat) : ℚ) / (10 ^ (-e).toNat : Nat) = c * 10 ^ e := by
    push_cast
    rw [pow_toNat 10 h10 e]
    field_simp
  rwa [hvalue]

/-! ## Tagged texts -/

/-- The tagged text of a finite float is a decimal behind a sign, and reads back. -/
theorem decimal_tagged {x : Float} {negative : Bool} (hx : decode x = .finite negative coef exp) :
    ∃ w : Written, w.Valid ∧ Layout.marked w ∧
      Layout.tagged.chars x = (if negative then ['-'] else []) ++ w.text ∧
        decimal? negative w.text = some x := by
  obtain ⟨hr, hbits⟩ := decode_finite hx
  have hchars : Layout.tagged.chars x =
      (if negative then ['-'] else []) ++ Layout.tagged.magnitude coef exp := by
    rw [Layout.chars, hx]
  rw [hchars]
  by_cases hc : coef = 0
  · subst hc
    have hexp : exp = -1074 := by
      rcases hr.full with h | h
      · exact h
      · omega
    have hvalid : (Written.mk ['0'] ['0'] none).Valid :=
      ⟨by simp, Layout.isDigit_zero, Layout.isDigit_zero, by simp⟩
    refine ⟨_, hvalid, .inl (by simp), by rw [Layout.tagged_zero exp], ?_⟩
    rw [Written.decimal_text hvalid, hbits, hexp]
    rfl
  · obtain ⟨w, hvalid, hmarked, htext, zeros, hwcoef, hwexp⟩ := Layout.tagged_digits hc exp
    refine ⟨w, hvalid, hmarked, by rw [htext], ?_⟩
    have hmem := shortest_mem hr hc .upper
    have hvalue : (w.coef : ℚ) * 10 ^ w.exp =
        (shortest .upper coef exp).1 * 10 ^ (shortest .upper coef exp).2 := by
      rw [hwcoef, hwexp, zpow_sub₀ (by norm_num)]
      push_cast
      field_simp
      simp
    rw [← hvalue] at hmem
    rw [Written.decimal_text hvalid, ofDecimal_of_mem negative hr hc hmem, ← hbits]

/-- **The tagged text of a finite float reads back.** -/
theorem float_tagged {x : Float} (hx : decode x = .finite false coef exp) :
    ∃ w : Written, w.Valid ∧ Layout.marked w ∧ Layout.tagged.chars x = w.text ∧
      float? w.text = some x := by
  obtain ⟨w, hvalid, hmarked, htext, hread⟩ := decimal_tagged hx
  refine ⟨w, hvalid, hmarked, htext, ?_⟩
  rw [Written.float_text hvalid, ← Written.decimal_text hvalid, hread]

end RowQuery.Number
