import RowQuery.Proofs.Number.Decimal
import RowQuery.Proofs.Number.Monotone

/-!
# Floats whose decimal is zero

A decimal has 28 places at most, so that the decimal of a small float is zero. Places beyond the 28th are
rounded away one by one, each time from what the last rounding left: that takes 94 to zero and leaves 1 of
95, and so 944 and 945, 9444 and 9445. The decimal is zero exactly for floats of a magnitude below
85 / 9 · 10 ^ -29 (`Decimal96.ofFloat?_isZero_iff`). Bits are dropped before that, but no float lies so
near to this number that they matter (`Decimal96.gap`).
-/

namespace RowQuery.Number

/-- Magnitude of a finite float. -/
def magnitude? (x : Float) : Option ℚ :=
  match decode x with
  | .finite _ coef exp => some (coef * 2 ^ exp)
  | _ => none

/-- Both zeros, and no other float, have the magnitude zero. -/
theorem isZero_iff {x : Float} : isZero x = true ↔ magnitude? x = some 0 := by
  have hkey : isZero x = true ↔ x.toBits.toNat % 2 ^ 63 = 0 := by
    rw [← natAbs_key, Int.natAbs_eq_zero, isZero, decide_eq_true_iff]
  rw [hkey, magnitude?]
  split
  next negative coef exp hdecode =>
    have hpow : (2 : ℚ) ^ exp ≠ 0 := by positivity
    simp only [Option.some.injEq, mul_eq_zero, hpow, or_false, Nat.cast_eq_zero]
    simp only [decode] at hdecode
    split at hdecode
    · split at hdecode <;> cases hdecode
    · split at hdecode <;> (cases hdecode; omega)
  next hother =>
    refine iff_of_false (fun hzero => ?_) (by simp)
    refine hother (decide (2 ^ 63 ≤ x.toBits.toNat)) (x.toBits.toNat % 2 ^ 63 % 2 ^ 52) (-1074) ?_
    simp only [decode]
    rw [if_neg (by omega), if_pos (by omega)]

namespace Decimal96

variable {count m m' coef : Nat} {e e' exp : Int}

/-! ## Dropping bits -/

/-- The greatest part of a coefficient that a dropped bit can be: bits are dropped from 94 bits on. -/
def bitLoss : ℚ := 5 / 2 ^ 96

theorem bitLoss_pos : 0 < bitLoss := by
  norm_num [bitLoss]

/-- A half is traded for a tenth exactly, or a bit is dropped. -/
theorem tradeHalves_step (count : Nat) (e : Int) (hm : 0 < m) : ∃ m₁ e₁,
    tradeHalves (count + 1) m e = tradeHalves count m₁ e₁ ∧ 0 < m₁ ∧
      (m₁ : ℚ) * 10 ^ e₁ ≤ 5 * (m * 10 ^ e) ∧
        5 * (m * 10 ^ e) * (1 - bitLoss) ≤ (m₁ : ℚ) * 10 ^ e₁ := by
  have hten : (10 : ℚ) ^ (e + 1) = 10 ^ e * 10 := zpow_add_one₀ (by norm_num) e
  have hpos : (0 : ℚ) < 10 ^ e := by positivity
  have hloss := bitLoss_pos
  have hexact {r : ℚ} (hr : r = 5 * (m * 10 ^ e)) :
      r ≤ 5 * (m * 10 ^ e) ∧ 5 * (m * 10 ^ e) * (1 - bitLoss) ≤ r := by
    have : (0 : ℚ) ≤ 5 * (m * 10 ^ e) * bitLoss := by positivity
    rw [hr]
    constructor <;> linarith
  rw [tradeHalves]
  by_cases heven : m % 2 = 0
  · obtain ⟨k, rfl⟩ : ∃ k, m = 2 * k := ⟨m / 2, by omega⟩
    refine ⟨k, e + 1, ?_, by omega, hexact ?_⟩
    · rw [if_pos heven, Nat.mul_div_cancel_left k (by norm_num)]
    · rw [hten]
      push_cast
      ring
  · rw [if_neg heven]
    by_cases hroom : m * 5 < limit
    · refine ⟨m * 5, e, if_pos hroom, by omega, hexact ?_⟩
      push_cast
      ring
    · obtain ⟨k, rfl⟩ : ∃ k, m = 2 * k + 1 := ⟨m / 2, by omega⟩
      have hlost : (1 : ℚ) ≤ (2 * k + 1) * bitLoss := by
        have hlarge : 2 ^ 96 ≤ (2 * k + 1) * 5 := Nat.le_of_not_lt hroom
        rw [bitLoss, mul_div_assoc', le_div_iff₀ (by positivity), one_mul]
        exact_mod_cast hlarge
      have hdropped : (1 : ℚ) * 10 ^ e ≤ (2 * k + 1) * bitLoss * 10 ^ e :=
        mul_le_mul_of_nonneg_right hlost hpos.le
      have hhalf : (2 * k + 1) / 2 = k := by omega
      have hlimit : 2 ^ 96 ≤ (2 * k + 1) * 5 := Nat.le_of_not_lt hroom
      refine ⟨k, e + 1, by rw [if_neg hroom, hhalf], by omega, ?_, ?_⟩
      · rw [hten]
        push_cast
        linarith
      · rw [hten]
        push_cast
        linarith

/-- Trading halves for tenths does not make a number larger, and makes it smaller by next to nothing. -/
theorem tradeHalves_bounds (count : Nat) (e : Int) (hm : 0 < m) : 0 < (tradeHalves count m e).1 ∧
    ((tradeHalves count m e).1 : ℚ) * 10 ^ (tradeHalves count m e).2 ≤ m * 10 ^ e * 5 ^ count ∧
      m * 10 ^ e * 5 ^ count * (1 - count * bitLoss) ≤
        ((tradeHalves count m e).1 : ℚ) * 10 ^ (tradeHalves count m e).2 := by
  induction count generalizing m e with
  | zero => simpa [tradeHalves] using hm
  | succ count ih =>
    obtain ⟨m₁, e₁, hstep, hm₁, hle, hge⟩ := tradeHalves_step count e hm
    obtain ⟨hpos, hle', hge'⟩ := ih e₁ hm₁
    rw [hstep]
    have hfive : (0 : ℚ) ≤ 5 ^ count := by positivity
    have hbelow := mul_le_mul_of_nonneg_right hle hfive
    have habove := mul_le_mul_of_nonneg_right hge hfive
    have hsmall : (0 : ℚ) ≤ count * bitLoss := mul_nonneg (by positivity) bitLoss_pos.le
    have hlost := mul_le_mul_of_nonneg_left hbelow hsmall
    refine ⟨hpos, ?_, ?_⟩
    · calc ((tradeHalves count m₁ e₁).1 : ℚ) * 10 ^ (tradeHalves count m₁ e₁).2
          ≤ m₁ * 10 ^ e₁ * 5 ^ count := hle'
        _ ≤ 5 * (m * 10 ^ e) * 5 ^ count := hbelow
        _ = m * 10 ^ e * 5 ^ (count + 1) := by ring
    · push_cast
      calc (m : ℚ) * 10 ^ e * 5 ^ (count + 1) * (1 - (count + 1) * bitLoss)
          = 5 * (m * 10 ^ e) * (1 - bitLoss) * 5 ^ count -
              count * bitLoss * (5 * (m * 10 ^ e) * 5 ^ count) := by ring
        _ ≤ m₁ * 10 ^ e₁ * 5 ^ count - count * bitLoss * (m₁ * 10 ^ e₁ * 5 ^ count) := by linarith
        _ = m₁ * 10 ^ e₁ * 5 ^ count * (1 - count * bitLoss) := by ring
        _ ≤ (tradeHalves count m₁ e₁).1 * 10 ^ (tradeHalves count m₁ e₁).2 := hge'

/-! ## Steps that keep what is not zero -/

theorem tradeDoublings_eq_zero_iff (h : tradeDoublings count m e = some (m', e')) :
    (m' = 0 ↔ m = 0) ∧ e - count ≤ e' := by
  induction count generalizing m e with
  | zero =>
    cases h
    simp
  | succ count ih =>
    rw [tradeDoublings] at h
    split at h
    · obtain ⟨hzero, hle⟩ := ih h
      exact ⟨hzero.trans (by omega), by omega⟩
    split at h
    · cases h
    · obtain ⟨hzero, hle⟩ := ih h
      exact ⟨hzero.trans (by omega), by omega⟩

theorem raise_eq_zero_iff (h : raise count m = some m') : m' = 0 ↔ m = 0 := by
  induction count generalizing m with
  | zero =>
    cases h
    exact Iff.rfl
  | succ count ih =>
    rw [raise] at h
    split at h
    · exact (ih h).trans (by omega)
    · cases h

theorem dropExcess_eq_zero_iff (count m : Nat) (e : Int) : (dropExcess count m e).1 = 0 ↔ m = 0 := by
  induction count generalizing m e with
  | zero => exact Iff.rfl
  | succ count ih =>
    rw [dropExcess]
    split
    · exact Iff.rfl
    next hlarge =>
      rw [ih]
      split <;> omega

theorem dropZeros_eq_zero_iff (count m : Nat) (e : Int) : (dropZeros count m e).1 = 0 ↔ m = 0 := by
  induction count generalizing m e with
  | zero => exact Iff.rfl
  | succ count ih =>
    rw [dropZeros]
    split
    · rw [ih]
      omega
    · exact Iff.rfl

/-- Dropping places one by one comes to zero below 9, 94, 944, … -/
theorem dropPlaces_eq_zero_iff (k m : Nat) (e : Int) :
    (dropPlaces (k + 1) m e).1 = 0 ↔ 9 * m < 85 * 10 ^ k := by
  induction k generalizing m e with
  | zero =>
    simp only [dropPlaces]
    split
    · exact iff_of_true rfl (by omega)
    · exact iff_of_false (by split <;> omega) (by omega)
  | succ k ih =>
    have hpow : 10 ^ (k + 1) = 10 * 10 ^ k := pow_succ' 10 k
    have hpos : 0 < 10 ^ k := Nat.pow_pos (by norm_num)
    -- the bound is 4 modulo 9, so no multiple of 9 is nearer to it than 4 below or 5 above
    have hmod : 10 ^ k % 9 = 1 := by simp [Nat.pow_mod]
    rw [dropPlaces]
    by_cases hq : m / 10 = 0
    · rw [if_pos hq]
      exact iff_of_true rfl (by omega)
    · rw [if_neg hq, ih]
      split <;> omega

/-! ## The least magnitude that does not vanish -/

/-- The least magnitude whose decimal is not zero. -/
def leastShown : ℚ := 85 / (9 * 10 ^ 29)

theorem leastShown_pos : 0 < leastShown := by
  norm_num [leastShown]

theorem leastShown_lt_one : leastShown < 1 := by
  norm_num [leastShown]

/-- No number of 53 bits lies above the least magnitude by no more than what dropping bits takes away. -/
theorem gap (hcoef : coef < 2 ^ 53) (hle : leastShown ≤ coef * 2 ^ exp) :
    leastShown ≤ coef * 2 ^ exp * (1 - 1074 * bitLoss) := by
  have hcoef' : (coef : ℚ) < 2 ^ 53 := by exact_mod_cast hcoef
  have hexp : -146 ≤ exp := by
    by_contra hlt
    have hpow : (2 : ℚ) ^ exp ≤ 2 ^ (-147 : Int) := zpow_le_zpow_right₀ (by norm_num) (by omega)
    have hsmall : (coef : ℚ) * 2 ^ exp < 2 ^ 53 * 2 ^ (-147 : Int) :=
      mul_lt_mul_of_lt_of_le_of_nonneg_of_pos hcoef' hpow (by positivity) (by positivity)
    norm_num [leastShown] at hle hsmall
    linarith
  -- the magnitude in units of 2 ^ -146, of which the least has 8424725963889346.2…
  obtain ⟨n, hn⟩ : ∃ n : Nat, (coef : ℚ) * 2 ^ exp = n * 2 ^ (-146 : Int) := by
    refine ⟨coef * 2 ^ (exp + 146).toNat, ?_⟩
    have hsplit : (2 : ℚ) ^ exp = 2 ^ (exp + 146).toNat * 2 ^ (-146 : Int) := by
      rw [← zpow_natCast, ← zpow_add₀ (by norm_num)]
      congr 1
      omega
    push_cast
    rw [hsplit]
    ring
  rw [hn] at hle ⊢
  have hunits : 8424725963889347 ≤ n := by
    by_contra hlt
    have hlt : (n : ℚ) ≤ 8424725963889346 := by exact_mod_cast Nat.le_of_lt_succ (not_le.mp hlt)
    norm_num [leastShown] at hle
    linarith
  have hunits : (8424725963889347 : ℚ) ≤ n := by exact_mod_cast hunits
  norm_num [leastShown, bitLoss]
  linarith

theorem tradeHalves_exp_le (count m : Nat) (e : Int) : (tradeHalves count m e).2 ≤ e + count := by
  induction count generalizing m e with
  | zero => simp [tradeHalves]
  | succ count ih =>
    rw [tradeHalves]
    split
    · exact (ih _ _).trans (by omega)
    split
    · exact (ih _ _).trans (by omega)
    · exact (ih _ _).trans (by omega)

/-- Whole numbers keep all their places. -/
theorem ofBinary?_isZero_of_nonneg {negative : Bool} {d : Decimal96} (hexp : 0 ≤ exp)
    (h : ofBinary? negative coef exp = some d) : d.isZero = true ↔ coef = 0 := by
  rw [ofBinary?] at h
  split at h
  next hzero =>
    cases h
    exact iff_of_true rfl hzero
  next hcoef =>
    have hhalves : (-exp).toNat = 0 := by omega
    simp only [hhalves, tradeHalves, Option.bind_eq_bind, Option.bind_eq_some_iff, Prod.exists] at h
    obtain ⟨m, e, hm, n, hn, h⟩ := h
    obtain ⟨hm, he⟩ := tradeDoublings_eq_zero_iff hm
    have hplaces : (-28 - min e 0).toNat = 0 := by omega
    simp only [hplaces, dropPlaces] at h
    cases h
    simp only [isZero, decide_eq_true_eq]
    rw [dropZeros_eq_zero_iff, dropExcess_eq_zero_iff, raise_eq_zero_iff hn, hm]

/-- With a binary fraction there is a decimal, and what is left of the magnitude decides whether it is
zero. -/
theorem ofBinary?_of_neg (negative : Bool) (hcoef : coef ≠ 0) (hexp : exp < 0) :
    ∃ d, ofBinary? negative coef exp = some d ∧
      (d.isZero = true ↔ ((tradeHalves (-exp).toNat coef exp).1 : ℚ) *
        10 ^ (tradeHalves (-exp).toNat coef exp).2 < leastShown) := by
  have hpos := (tradeHalves_bounds (-exp).toNat exp (Nat.pos_of_ne_zero hcoef)).1
  have hle := tradeHalves_exp_le (-exp).toNat coef exp
  rw [ofBinary?, if_neg hcoef]
  generalize tradeHalves (-exp).toNat coef exp = halves at *
  obtain ⟨m, e⟩ := halves
  have hdoublings : exp.toNat = 0 := by omega
  have hraise : e.toNat = 0 := by omega
  have hmin : min e 0 = e := by omega
  simp only [hdoublings, hraise, hmin, tradeDoublings, raise, Option.bind_eq_bind, Option.bind_some]
  refine ⟨_, rfl, ?_⟩
  simp only [isZero, decide_eq_true_eq]
  rw [dropZeros_eq_zero_iff, dropExcess_eq_zero_iff]
  by_cases hplaces : e ≤ -29
  · obtain ⟨k, rfl⟩ : ∃ k : Nat, e = -29 - k := ⟨(-29 - e).toNat, by omega⟩
    have hcount : (-28 - (-29 - k : Int)).toNat = k + 1 := by omega
    have hpow : (10 : ℚ) ^ (-29 - k : Int) = 1 / (10 ^ 29 * 10 ^ k) := by
      rw [zpow_sub₀ (by norm_num), zpow_neg, zpow_natCast, ← one_div, div_div]
      rfl
    rw [hcount, dropPlaces_eq_zero_iff, ← Nat.cast_lt (α := ℚ), hpow, leastShown, mul_one_div,
      div_lt_div_iff₀ (by positivity) (by positivity)]
    push_cast
    constructor <;> intro hlt <;> linarith
  · have hcount : (-28 - e).toNat = 0 := by omega
    have hpow : (10 : ℚ) ^ (-28 : Int) ≤ 10 ^ e := zpow_le_zpow_right₀ (by norm_num) (by omega)
    have hone : (1 : ℚ) ≤ m := by exact_mod_cast hpos
    rw [hcount, dropPlaces]
    refine iff_of_false hpos.ne' (not_lt.mpr ?_)
    calc leastShown ≤ 10 ^ (-28 : Int) := by norm_num [leastShown]
      _ ≤ 1 * 10 ^ e := by rwa [one_mul]
      _ ≤ m * 10 ^ e := mul_le_mul_of_nonneg_right hone (by positivity)

/-- A half is five tenths, also of a power of two that is a fraction. -/
theorem two_zpow_eq (hexp : exp < 0) : (2 : ℚ) ^ exp = 10 ^ exp * 5 ^ (-exp).toNat := by
  have hfive : (5 : ℚ) ^ (-exp).toNat = 5 ^ (-exp) := by
    rw [← zpow_natCast]
    congr 1
    omega
  have hten : (10 : ℚ) ^ exp = 2 ^ exp * 5 ^ exp := by
    rw [← mul_zpow]
    norm_num
  rw [hfive, hten, mul_assoc, ← zpow_add₀ (by norm_num), add_neg_cancel, zpow_zero, mul_one]

theorem ofBinary?_isZero_iff {negative : Bool} (hcoef : coef < 2 ^ 53) (hleast : -1074 ≤ exp) :
    (∃ d, ofBinary? negative coef exp = some d ∧ d.isZero = true) ↔ coef * 2 ^ exp < leastShown := by
  have hloss := bitLoss_pos
  by_cases hzero : coef = 0
  · subst hzero
    refine iff_of_true ⟨⟨negative, 0, 0⟩, by simp [ofBinary?], by simp [isZero]⟩ ?_
    simpa using leastShown_pos
  by_cases hexp : exp < 0
  · obtain ⟨d, hd, hiff⟩ := ofBinary?_of_neg negative hzero hexp
    obtain ⟨-, hbelow, habove⟩ := tradeHalves_bounds (-exp).toNat exp (Nat.pos_of_ne_zero hzero)
    have hmagnitude : (coef : ℚ) * 10 ^ exp * 5 ^ (-exp).toNat = coef * 2 ^ exp := by
      rw [two_zpow_eq hexp, mul_assoc]
    rw [hmagnitude] at hbelow habove
    have hcount : ((-exp).toNat : ℚ) ≤ 1074 := by exact_mod_cast (by omega : (-exp).toNat ≤ 1074)
    have hvalue : (0 : ℚ) ≤ coef * 2 ^ exp := by positivity
    rw [hd]
    simp only [Option.some.injEq, exists_eq_left']
    rw [hiff]
    refine ⟨fun hlt => ?_, fun hlt => hbelow.trans_lt hlt⟩
    by_contra hle
    have hkept : 1 - 1074 * bitLoss ≤ 1 - (-exp).toNat * bitLoss :=
      sub_le_sub_left (mul_le_mul_of_nonneg_right hcount hloss.le) 1
    have := (gap hcoef (not_lt.mp hle)).trans ((mul_le_mul_of_nonneg_left hkept hvalue).trans habove)
    linarith
  · refine iff_of_false ?_ (not_lt.mpr ?_)
    · rintro ⟨d, hd, hvanished⟩
      exact hzero ((ofBinary?_isZero_of_nonneg (not_lt.mp hexp) hd).mp hvanished)
    · have hone : (1 : ℚ) ≤ coef := by exact_mod_cast Nat.one_le_iff_ne_zero.mpr hzero
      have hpow : (1 : ℚ) ≤ 2 ^ exp := one_le_zpow₀ (by norm_num) (not_lt.mp hexp)
      calc leastShown ≤ 1 := leastShown_lt_one.le
        _ ≤ coef * 2 ^ exp := one_le_mul_of_one_le_of_one_le hone hpow

/-- **The decimal of a float is zero** exactly if the float is finite and of a magnitude below the least
one. -/
theorem ofFloat?_isZero_iff {x : Float} :
    (∃ d, ofFloat? x = some d ∧ d.isZero = true) ↔ ∃ r, magnitude? x = some r ∧ r < leastShown := by
  simp only [ofFloat?, magnitude?]
  cases hdecode : decode x with
  | nan => simp
  | infinite negative => simp
  | finite negative coef exp =>
    obtain ⟨⟨hcoef, hleast, -, -⟩, -⟩ := decode_finite hdecode
    simp only [Option.some.injEq, exists_eq_left']
    exact ofBinary?_isZero_iff hcoef hleast

end Decimal96

end RowQuery.Number
