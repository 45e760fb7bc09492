import RowQuery.Proofs.Eval.Division
import RowQuery.Proofs.Number.WholeDecimal

/-!
# Exact arithmetic on whole numbers

Two integers give the exact result where it is an integer of 64 bits. Every other result is the float that the
operation gives on the floats of both, and nothing wraps around (`integer_exact_or_widened`). An integer and a
float without a fraction are added, subtracted and multiplied as decimals, which is exact as well: the result
is an integer again wherever it fits (`BinaryOp.apply_whole`).
-/

namespace RowQuery

open Number

namespace Arithmetic

variable {op : Arithmetic} {a b r : ℤ} {x y : Float}

/-- The exact result `r` of an operation on whole numbers: a quotient without a remainder, and a remainder of
the sign of the dividend. -/
def Exact (op : Arithmetic) (a b r : ℤ) : Prop :=
  match op with
  | add => r = a + b
  | subtract => r = a - b
  | multiply => r = a * b
  | divide => b ≠ 0 ∧ r * b = a
  | modulo => r.natAbs < b.natAbs ∧ (r = 0 ∨ r.sign = a.sign) ∧ ∃ q, a = q * b + r

/-! ## Integers -/

theorem exact_divide_iff : divide.Exact a b r ↔ (b ≠ 0 ∧ a.tmod b = 0) ∧ a.tdiv b = r := by
  constructor
  · rintro ⟨hb, rfl⟩
    exact ⟨⟨hb, Int.mul_tmod_left r b⟩, Int.mul_tdiv_cancel r hb⟩
  · rintro ⟨⟨hb, hrest⟩, rfl⟩
    exact ⟨hb, Int.tdiv_mul_cancel (Int.dvd_of_tmod_eq_zero hrest)⟩

theorem exact_modulo_iff : modulo.Exact a b r ↔ b ≠ 0 ∧ a.tmod b = r := by
  constructor
  · rintro ⟨hlt, hsign, q, hq⟩
    have hb : b ≠ 0 := by
      rintro rfl
      exact absurd hlt (Nat.not_lt_zero _)
    have hsum : r + b * q = a := by rw [hq, mul_comm, add_comm]
    refine ⟨hb, ?_⟩
    rcases le_total 0 a with ha | ha
    · have hr : 0 ≤ r := by
        rcases hsign with rfl | hsign
        · exact le_rfl
        · rwa [← Int.sign_nonneg_iff, hsign, Int.sign_nonneg_iff]
      exact ((Int.tdiv_tmod_unique ha hb).mpr ⟨hsum, hr, by omega⟩).2
    · have hr : r ≤ 0 := by
        rcases hsign with rfl | hsign
        · exact le_rfl
        · rwa [← Int.sign_nonpos_iff, hsign, Int.sign_nonpos_iff]
      exact ((Int.tdiv_tmod_unique' ha hb).mpr ⟨hsum, by omega, hr⟩).2
  · rintro ⟨hb, rfl⟩
    refine ⟨?_, ?_, a.tdiv b, ?_⟩
    · rw [Int.natAbs_tmod]
      exact Nat.mod_lt _ (Int.natAbs_pos.mpr hb)
    · by_cases hzero : a.tmod b = 0
      · exact .inl hzero
      · have hndvd : ¬ b ∣ a := fun h => hzero (Int.tmod_eq_zero_of_dvd h)
        right
        rw [Int.sign_tmod, if_neg hndvd]
    · rw [mul_comm]
      exact (Int.mul_tdiv_add_tmod a b).symm

theorem exactInt?_eq_some_iff : op.exactInt? a b = some r ↔ op.Exact a b r := by
  cases op with
  | add | subtract | multiply =>
    unfold exactInt? Exact
    rw [Option.some.injEq]
    exact eq_comm
  | divide =>
    rw [exact_divide_iff, exactInt?]
    split
    next h => rw [Option.some.injEq, and_iff_right h]
    next h => exact iff_of_false (by simp) fun hexact => h hexact.1
  | modulo =>
    rw [exact_modulo_iff, exactInt?]
    split
    next h => rw [Option.some.injEq, and_iff_right h]
    next h => exact iff_of_false (by simp) fun hexact => h hexact.1

theorem onInts_of_exact {a b r : Int64} (h : op.Exact a.toInt b.toInt r.toInt) :
    op.onInts a b = .ok (.int r) := by
  rw [onInts, exactInt?_eq_some_iff.mpr h, Option.bind_some, int64OfInt?_eq_some_iff.mpr rfl]

theorem onInts_of_not_exact {a b : Int64} (h : ¬ ∃ r : Int64, op.Exact a.toInt b.toInt r.toInt) :
    op.onInts a b = op.onFloats (ofInt64 a) (ofInt64 b) := by
  rw [onInts]
  split
  next r hr =>
    obtain ⟨k, hk, hfits⟩ := Option.bind_eq_some_iff.mp hr
    rw [← int64OfInt?_eq_some_iff.mp hfits] at hk
    exact absurd ⟨r, exactInt?_eq_some_iff.mp hk⟩ h
  next => rfl

/-- There always is a remainder, of the least integer by -1 too. -/
theorem exists_exact_modulo (a : Int64) {b : Int64} (hb : b ≠ 0) :
    ∃ r : Int64, modulo.Exact a.toInt b.toInt r.toInt := by
  have hbint : b.toInt ≠ 0 := fun h => hb (Int64.toInt_inj.mp h)
  have hexact : modulo.Exact a.toInt b.toInt (a.toInt.tmod b.toInt) := exact_modulo_iff.mpr ⟨hbint, rfl⟩
  have hlt := hexact.1
  have hlow := b.le_toInt
  have hhigh := b.toInt_lt
  refine ⟨Int64.ofInt (a.toInt.tmod b.toInt), ?_⟩
  rwa [Int64.toInt_ofInt_of_le (by omega) (by omega)]

theorem exists_onFloats (h : op.Divides → isZero y = false) : ∃ z, op.onFloats x y = .ok (.float z) := by
  cases op with
  | add | subtract | multiply => exact ⟨_, rfl⟩
  | divide =>
    refine ⟨x / y, ?_⟩
    simp [onFloats, onFloats?, h (.inl rfl)]
  | modulo =>
    refine ⟨fmod x y, ?_⟩
    simp [onFloats, onFloats?, h (.inr rfl)]

/-! ## Whole decimals -/

theorem onFloats_ne_int {n : Int64} : op.onFloats x y ≠ .ok (.int n) := by
  unfold onFloats
  split
  · intro h
    cases h
  · intro h
    cases h

variable {c d e : Decimal96}

/-- What the operation on decimals of whole numbers gives stands for the exact result. -/
theorem isInt_of_onDecimals (hop : ¬ op.Divides) (hd : d.IsInt a) (he : e.IsInt b)
    (h : op.onDecimals d e = .ok (some c)) : ∃ r, c.IsInt r ∧ op.Exact a b r := by
  cases op with
  | add =>
    simp only [onDecimals] at h
    split at h
    next hc =>
      cases h
      exact ⟨a + b, hd.add? he hc, rfl⟩
    next => cases h
  | subtract =>
    simp only [onDecimals] at h
    split at h
    next hc =>
      cases h
      exact ⟨a - b, hd.sub? he hc, rfl⟩
    next => cases h
  | multiply => exact ⟨a * b, hd.mul? he (Except.ok.inj h), rfl⟩
  | divide => exact absurd (.inl rfl) hop
  | modulo => exact absurd (.inr rfl) hop

/-- An exact result of up to 96 bits is found. -/
theorem exists_onDecimals (hop : ¬ op.Divides) (hd : d.IsInt a) (he : e.IsInt b) (h : op.Exact a b r)
    (hr : r.natAbs < Decimal96.limit) : ∃ c, op.onDecimals d e = .ok (some c) ∧ c.IsInt r := by
  cases op with
  | add =>
    cases h
    obtain ⟨c, hc⟩ := hd.exists_add? he hr
    refine ⟨c, ?_, hd.add? he hc⟩
    rw [onDecimals, hc]
  | subtract =>
    cases h
    obtain ⟨c, hc⟩ := hd.exists_sub? he hr
    refine ⟨c, ?_, hd.sub? he hc⟩
    rw [onDecimals, hc]
  | multiply =>
    cases h
    obtain ⟨c, hc⟩ := hd.exists_mul? he hr
    refine ⟨c, ?_, hd.mul? he hc⟩
    rw [onDecimals, hc]
  | divide => exact absurd (.inl rfl) hop
  | modulo => exact absurd (.inr rfl) hop

/-- The number for a whole decimal is exact if it is an integer, and has no fraction if it is a float. -/
theorem ofDecimal_cases (h : d.IsInt a) :
    (∃ n : Int64, ofDecimal d = .int n ∧ n.toInt = a) ∨ ∃ x, ofDecimal d = .float x ∧ Integral x := by
  rw [ofDecimal_eq h]
  cases hfits : int64OfInt? a with
  | none => exact .inr ⟨_, rfl, integral_ofRatio _ _⟩
  | some n => exact .inl ⟨n, rfl, int64OfInt?_eq_some_iff.mp hfits⟩

/-- Whole decimals give the exact integer, a float without a fraction, or what the floats give. -/
theorem onMixed_cases (hop : ¬ op.Divides) (hd : d.IsInt a) (he : e.IsInt b) {v : Value}
    (h : op.onMixed (some d) (some e) x y = .ok v) :
    (∃ n : Int64, v = .int n ∧ op.Exact a b n.toInt) ∨ (∃ z, v = .float z ∧ Integral z) ∨
      op.onFloats x y = .ok v := by
  obtain ⟨result, hresult, h⟩ := bind_eq_ok.mp h
  cases result with
  | none => exact .inr (.inr h)
  | some c =>
    obtain ⟨r, hc, hexact⟩ := isInt_of_onDecimals hop hd he hresult
    rw [← Except.ok.inj h]
    rcases ofDecimal_cases hc with ⟨n, hn, rfl⟩ | ⟨z, hz, hintegral⟩
    · exact .inl ⟨n, hn, hexact⟩
    · exact .inr (.inl ⟨z, hz, hintegral⟩)

/-- **Whole decimals give the exact integer wherever there is one of 64 bits, and no other integer.** -/
theorem onMixed_eq_int_iff (hop : ¬ op.Divides) (hd : d.IsInt a) (he : e.IsInt b) {n : Int64} :
    op.onMixed (some d) (some e) x y = .ok (.int n) ↔ op.Exact a b n.toInt := by
  constructor
  · intro h
    rcases onMixed_cases hop hd he h with ⟨m, hm, hexact⟩ | ⟨z, hz, -⟩ | hfloats
    · cases hm
      exact hexact
    · cases hz
    · exact absurd hfloats onFloats_ne_int
  · intro h
    have hlow := n.le_toInt
    have hhigh := n.toInt_lt
    have hlimit : n.toInt.natAbs < Decimal96.limit := by
      unfold Decimal96.limit
      omega
    obtain ⟨c, hc, hint⟩ := exists_onDecimals hop hd he h hlimit
    have hresult : op.onMixed (some d) (some e) x y = .ok (ofDecimal c) := by
      show (op.onDecimals d e >>= _) = _
      rw [hc]
      rfl
    rw [hresult, ofDecimal_eq hint, int64OfInt?_eq_some_iff.mpr rfl]

end Arithmetic

/-! ## Operators -/

/-- **Integer arithmetic is exact or widened.** The result of a binary operator on integers is the exact
integer, if there is one of 64 bits, and otherwise what the operator gives on the floats of both. A remainder
always is an integer. The opposite is exact as well, but for that of the least integer, which is the float 2 ^ 63. -/
theorem integer_exact_or_widened (a : Int64) :
    (∀ (op : Arithmetic) (b : Int64), (op.Divides → b ≠ 0) →
      (∃ r : Int64, op.Exact a.toInt b.toInt r.toInt ∧
        BinaryOp.apply (.arithmetic op) (.int a) (.int b) = .ok (.int r)) ∨
      (op ≠ .modulo ∧ (¬ ∃ r : Int64, op.Exact a.toInt b.toInt r.toInt) ∧
        ∃ x, BinaryOp.apply (.arithmetic op) (.float (ofInt64 a)) (.float (ofInt64 b)) = .ok (.float x) ∧
          BinaryOp.apply (.arithmetic op) (.int a) (.int b) = .ok (.float x))) ∧
    ((∃ r : Int64, r.toInt = -a.toInt ∧ UnaryOp.apply .negate (.int a) = .ok (.int r)) ∨
      (¬ ∃ r : Int64, r.toInt = -a.toInt) ∧
        ∃ x, value? x = some (2 ^ 63) ∧ UnaryOp.apply .negate (.int a) = .ok (.float x)) := by
  constructor
  · intro op b hb
    have hints : BinaryOp.apply (.arithmetic op) (.int a) (.int b) = op.onInts a b := by cases op <;> rfl
    have hfloats : BinaryOp.apply (.arithmetic op) (.float (ofInt64 a)) (.float (ofInt64 b)) =
        op.onFloats (ofInt64 a) (ofInt64 b) := by cases op <;> rfl
    rw [hints, hfloats]
    by_cases hexact : ∃ r : Int64, op.Exact a.toInt b.toInt r.toInt
    · obtain ⟨r, hr⟩ := hexact
      exact .inl ⟨r, hr, Arithmetic.onInts_of_exact hr⟩
    · right
      have hdivisor : op.Divides → isZero (ofInt64 b) = false := by
        intro hop
        rw [Bool.eq_false_iff, ne_eq, isZero_ofInt64]
        exact hb hop
      obtain ⟨x, hx⟩ := Arithmetic.exists_onFloats (x := ofInt64 a) hdivisor
      refine ⟨?_, hexact, x, hx, ?_⟩
      · rintro rfl
        exact hexact (Arithmetic.exists_exact_modulo a (hb (.inr rfl)))
      · rw [Arithmetic.onInts_of_not_exact hexact, hx]
  · simp only [UnaryOp.apply, Value.negate]
    cases hopposite : int64OfInt? (-a.toInt) with
    | some r => exact .inl ⟨r, int64OfInt?_eq_some_iff.mp hopposite, rfl⟩
    | none =>
      have hnone : ¬ ∃ r : Int64, r.toInt = -a.toInt := by
        rintro ⟨r, hr⟩
        rw [int64OfInt?_eq_some_iff.mpr hr] at hopposite
        cases hopposite
      -- only the least integer has no opposite
      have hleast : a = Int64.minValue := by
        by_contra hne
        have hne : a.toInt ≠ Int64.minValue.toInt := fun h => hne (Int64.toInt_inj.mp h)
        have hmin : Int64.minValue.toInt = -2 ^ 63 := by decide
        have hlow := a.le_toInt
        have hhigh := a.toInt_lt
        exact hnone ⟨Int64.ofInt (-a.toInt), Int64.toInt_ofInt_of_le (by omega) (by omega)⟩
      refine .inr ⟨hnone, _, ?_, rfl⟩
      rw [hleast, value?_eq_some_iff]
      exact ⟨false, 2 ^ 52, 11, by decide +kernel, by norm_num [signed]⟩

/-- The least integer by -1: no quotient, no opposite, and the remainder 0. -/
theorem integer_exact_or_widened_least :
    BinaryOp.apply (.arithmetic .modulo) (.int Int64.minValue) (.int (-1)) = .ok (.int 0) ∧
      (∃ x, BinaryOp.apply (.arithmetic .divide) (.int Int64.minValue) (.int (-1)) = .ok (.float x)) ∧
      ∃ x, value? x = some (2 ^ 63) ∧ UnaryOp.apply .negate (.int Int64.minValue) = .ok (.float x) := by
  have hleast : Int64.minValue.toInt = -2 ^ 63 := by decide
  have hone : (-1 : Int64).toInt = -1 := by decide
  obtain ⟨hbinary, hunary⟩ := integer_exact_or_widened Int64.minValue
  refine ⟨?_, ?_, ?_⟩
  · rcases hbinary .modulo (-1) fun _ => by decide with ⟨r, hr, happly⟩ | ⟨hne, -⟩
    · have hlt : r.toInt.natAbs < (-1 : Int64).toInt.natAbs := hr.1
      have hzero : r = 0 := by
        rw [← Int64.toInt_inj, Int64.toInt_zero]
        omega
      rw [happly, hzero]
    · exact absurd rfl hne
  · rcases hbinary .divide (-1) fun _ => by decide with ⟨r, hr, -⟩ | ⟨-, -, x, -, happly⟩
    · have hmul : r.toInt * (-1 : Int64).toInt = Int64.minValue.toInt := hr.2
      have hhigh := r.toInt_lt
      rw [hone, hleast] at hmul
      omega
    · exact ⟨x, happly⟩
  · rcases hunary with ⟨r, hr, -⟩ | ⟨-, x, hx, happly⟩
    · have hhigh := r.toInt_lt
      omega
    · exact ⟨x, hx, happly⟩

/-- **Whole numbers are added, subtracted and multiplied exactly**, an integer and a float in either order. -/
theorem BinaryOp.apply_whole {op : Arithmetic} (hop : ¬ op.Divides) {x : Float} {k : ℤ}
    (hx : value? x = some (k : ℚ)) (hk : k.natAbs ≤ 2 ^ 63) (a r : Int64) :
    (BinaryOp.apply (.arithmetic op) (.int a) (.float x) = .ok (.int r) ↔ op.Exact a.toInt k r.toInt) ∧
      (BinaryOp.apply (.arithmetic op) (.float x) (.int a) = .ok (.int r) ↔ op.Exact k a.toInt r.toInt) := by
  have hwhole := Decimal96.ofFloat?_whole hx
  rw [if_pos (by unfold Decimal96.limit; omega)] at hwhole
  obtain ⟨d, hd, hint⟩ := hwhole
  have hleft : BinaryOp.apply (.arithmetic op) (.int a) (.float x) =
      op.onMixed (some (.ofInt64 a)) (some d) (ofInt64 a) x := by
    rw [← hd]
    cases op <;> rfl
  have hright : BinaryOp.apply (.arithmetic op) (.float x) (.int a) =
      op.onMixed (some d) (some (.ofInt64 a)) x (ofInt64 a) := by
    rw [← hd]
    cases op <;> rfl
  rw [hleft, hright]
  exact ⟨Arithmetic.onMixed_eq_int_iff hop (Decimal96.isInt_ofInt64 a) hint,
    Arithmetic.onMixed_eq_int_iff hop hint (Decimal96.isInt_ofInt64 a)⟩

/-- The float 2 ^ 63 by -1 is the least integer, and less 1 the greatest one; -0.0 adds nothing. -/
theorem BinaryOp.apply_whole_bounds :
    BinaryOp.apply (.arithmetic .multiply) (.int (-1)) (.float (ofDecimal false (2 ^ 63) 0)) =
        .ok (.int Int64.minValue) ∧
      BinaryOp.apply (.arithmetic .subtract) (.float (ofDecimal false (2 ^ 63) 0)) (.int 1) =
        .ok (.int Int64.maxValue) ∧
      BinaryOp.apply (.arithmetic .add) (.float (ofDecimal true 0 0)) (.int 7) = .ok (.int 7) := by
  have hlarge : value? (ofDecimal false (2 ^ 63) 0) = some ((2 ^ 63 : ℤ) : ℚ) :=
    value?_eq_some_iff.mpr ⟨false, 2 ^ 52, 11, by decide +kernel, by norm_num [signed]⟩
  have hzero : value? (ofDecimal true 0 0) = some ((0 : ℤ) : ℚ) :=
    value?_eq_some_iff.mpr ⟨true, 0, -1074, by decide +kernel, by norm_num [signed]⟩
  refine ⟨?_, ?_, ?_⟩
  · have hexact : Int64.minValue.toInt = (-1 : Int64).toInt * 2 ^ 63 := by decide
    exact (BinaryOp.apply_whole (by decide) hlarge (by decide) _ _).1.mpr hexact
  · have hexact : Int64.maxValue.toInt = 2 ^ 63 - (1 : Int64).toInt := by decide
    exact (BinaryOp.apply_whole (by decide) hlarge (by decide) _ _).2.mpr hexact
  · have hexact : (7 : Int64).toInt = 0 + (7 : Int64).toInt := by decide
    exact (BinaryOp.apply_whole (by decide) hzero (by decide) _ _).2.mpr hexact

end RowQuery
