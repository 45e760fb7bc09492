import RowQuery.Eval.Operation
import RowQuery.Proofs.Failure
import RowQuery.Proofs.Number.Vanishing

/-!
# Divisions by zero

A division fails for a divisor of zero. It fails for some other divisors as well: where an integer is
divided by a float, the decimal of the divisor is asked whether it is zero, and so it is for every float of
a magnitude below `Decimal96.leastShown` (`BinaryOp.apply_eq_divisionByZero_iff`). Two integers, two floats,
and a float divided by an integer have no such divisors.
-/

namespace RowQuery

open Number

/-- Whether a value is the number zero. -/
def Value.isZero : Value → Bool
  | int n => n = 0
  | float x => Number.isZero x
  | _ => false

namespace Arithmetic

variable {op : Arithmetic} {x y : Float}

/-- The operations that have a divisor. -/
def Divides (op : Arithmetic) : Prop :=
  op = divide ∨ op = modulo

instance : DecidablePred Divides := fun _ => inferInstanceAs (Decidable (_ ∨ _))

theorem onFloats_eq_divisionByZero_iff (hop : op.Divides) :
    op.onFloats x y = Run.fail .divisionByZero ↔ Number.isZero y = true := by
  rcases hop with rfl | rfl
  all_goals
    simp only [onFloats, onFloats?]
    by_cases hzero : Number.isZero y = true
    · simp [hzero]
    · simp [hzero, Run.fail]

theorem onInts_eq_divisionByZero_iff (hop : op.Divides) {m n : Int64} :
    op.onInts m n = Run.fail .divisionByZero ↔ n = 0 := by
  rw [onInts]
  split
  next k hk =>
    refine iff_of_false (by simp [Run.fail]) ?_
    rintro rfl
    rcases hop with rfl | rfl
    all_goals simp [exactInt?] at hk
  next => rw [onFloats_eq_divisionByZero_iff hop, isZero_ofInt64]

theorem onDecimals_eq_divisionByZero_iff (hop : op.Divides) {d e : Decimal96} :
    op.onDecimals d e = Run.fail .divisionByZero ↔ e.isZero = true := by
  rcases hop with rfl | rfl
  all_goals
    simp only [onDecimals]
    by_cases hzero : e.isZero = true
    · simp [hzero]
    · simp [hzero, Run.fail]

/-- The decimal of the divisor decides where there are decimals of both numbers, and the divisor itself
where not. -/
theorem onMixed_eq_divisionByZero_iff (hop : op.Divides) {dx dy : Option Decimal96}
    (hzero : Number.isZero y = true → ∃ e, dy = some e ∧ e.isZero = true) :
    op.onMixed dx dy x y = Run.fail .divisionByZero ↔
      Number.isZero y = true ∨ dx.isSome = true ∧ ∃ e, dy = some e ∧ e.isZero = true := by
  cases dx with
  | none => simp [onMixed, onFloats_eq_divisionByZero_iff hop]
  | some d =>
    cases dy with
    | none => simp [onMixed, onFloats_eq_divisionByZero_iff hop]
    | some e =>
      have hy : Number.isZero y = true → e.isZero = true := by simpa using hzero
      simp only [onMixed, Option.isSome_some, Option.some.injEq, exists_eq_left', true_and]
      rw [or_iff_right_of_imp hy, ← onDecimals_eq_divisionByZero_iff hop (d := d), Run.fail, bind_eq_error]
      refine or_iff_left ?_
      rintro ⟨result, hresult, h⟩
      cases result with
      | some result => cases h
      | none =>
        have he := hy ((onFloats_eq_divisionByZero_iff hop).mp h)
        rw [(onDecimals_eq_divisionByZero_iff hop).mpr he] at hresult
        cases hresult

end Arithmetic

/-- **Divisions fail as by zero** where the divisor is zero, and where an integer is divided by a float of a
magnitude below the least one whose decimal is not zero. -/
theorem BinaryOp.apply_eq_divisionByZero_iff {op : Arithmetic} (hop : op.Divides) {a b : Value}
    (ha : a.isNumeric = true) (hb : b.isNumeric = true) :
    BinaryOp.apply (.arithmetic op) a b = Run.fail .divisionByZero ↔ b.isZero = true ∨
      ∃ n x r, a = .int n ∧ b = .float x ∧ magnitude? x = some r ∧ r < Decimal96.leastShown := by
  have happly : BinaryOp.apply (.arithmetic op) a b = op.apply a b := by
    rcases hop with rfl | rfl <;> rfl
  rw [happly]
  cases b with
  | int n =>
    rw [or_iff_left (by simp)]
    simp only [Value.isZero, decide_eq_true_eq]
    cases a with
    | int m => exact Arithmetic.onInts_eq_divisionByZero_iff hop
    | float x =>
      have hzero : isZero (ofInt64 n) = true ↔ (Decimal96.ofInt64 n).isZero = true := by
        rw [isZero_ofInt64, Decimal96.isZero_ofInt64]
      simp only [Arithmetic.apply]
      rw [Arithmetic.onMixed_eq_divisionByZero_iff hop fun h => ⟨_, rfl, hzero.mp h⟩]
      simp only [Option.some.injEq, exists_eq_left', ← hzero, isZero_ofInt64]
      exact or_iff_left_of_imp And.right
    | null | bool _ | str _ | array _ | object _ => cases ha
  | float y =>
    simp only [Value.isZero]
    cases a with
    | int m =>
      have hvanishes : isZero y = true → ∃ r, magnitude? y = some r ∧ r < Decimal96.leastShown :=
        fun h => ⟨0, isZero_iff.mp h, Decimal96.leastShown_pos⟩
      simp only [Arithmetic.apply]
      rw [Arithmetic.onMixed_eq_divisionByZero_iff hop fun h =>
        Decimal96.ofFloat?_isZero_iff.mpr (hvanishes h), Decimal96.ofFloat?_isZero_iff]
      simp
    | float x =>
      simp only [Arithmetic.apply]
      rw [Arithmetic.onFloats_eq_divisionByZero_iff hop, or_iff_left (by simp)]
    | null | bool _ | str _ | array _ | object _ => cases ha
  | null | bool _ | str _ | array _ | object _ => cases hb

/-- The two floats next to the bound: 1 divided by the smaller one fails, 1 divided by the greater one does
not. -/
theorem BinaryOp.apply_eq_divisionByZero_iff_bound :
    BinaryOp.apply (.arithmetic .divide) (.int 1) (.float (ofDecimal false 9444444444444444 (-44))) =
        Run.fail .divisionByZero ∧
      BinaryOp.apply (.arithmetic .divide) (.int 1) (.float (ofDecimal false 9444444444444445 (-44))) ≠
        Run.fail .divisionByZero := by
  have hbelow : decode (ofDecimal false 9444444444444444 (-44)) = .finite false 8424725963889346 (-146) := by
    decide +kernel
  have habove : decode (ofDecimal false 9444444444444445 (-44)) = .finite false 8424725963889347 (-146) := by
    decide +kernel
  constructor
  · refine (BinaryOp.apply_eq_divisionByZero_iff (.inl rfl) rfl rfl).mpr
      (.inr ⟨1, _, 8424725963889346 * 2 ^ (-146 : Int), rfl, rfl, ?_, ?_⟩)
    · simp [magnitude?, hbelow]
    · norm_num [Decimal96.leastShown]
  · intro h
    rcases (BinaryOp.apply_eq_divisionByZero_iff (.inl rfl) rfl rfl).mp h with
      hzero | ⟨n, x, r, hn, hx, hr, hlt⟩
    · have : isZero (ofDecimal false 9444444444444445 (-44)) = false := by decide +kernel
      rw [Value.isZero, this] at hzero
      cases hzero
    · cases hx
      simp only [magnitude?, habove, Option.some.injEq] at hr
      rw [← hr] at hlt
      norm_num [Decimal96.leastShown] at hlt

/-- 1 / 10 ^ -30 fails as a division by zero, although 10 ^ -30 is not zero. -/
theorem BinaryOp.apply_divisionByZero_shows :
    Value.isZero (.float (ofDecimal false 1 (-30))) = false ∧
      BinaryOp.apply (.arithmetic .divide) (.int 1) (.float (ofDecimal false 1 (-30))) =
        Run.fail .divisionByZero := by
  have hdecimal : Decimal96.ofFloat? (ofDecimal false 1 (-30)) = some ⟨false, 0, 0⟩ := by decide +kernel
  refine ⟨by decide +kernel, ?_⟩
  simp only [BinaryOp.apply, Arithmetic.apply, hdecimal]
  rfl

end RowQuery
