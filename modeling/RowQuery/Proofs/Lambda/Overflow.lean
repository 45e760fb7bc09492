import RowQuery.Lambda.Eval
import RowQuery.Proofs.Failure
import RowQuery.Proofs.Number.Decimal

/-!
# When evaluation overflows

Evaluation overflows in one place: where it comes to add or subtract an integer and a float, both with a
decimal form, and the result does not fit a decimal (`eval_overflow_iff`, `apply_overflow_iff`). Everything
else ends in a value or in an error of evaluation.
-/

namespace RowQuery

open Number

/-! ## Operations -/

/-- An integer and a float, in either order, and the decimals of both. -/
inductive Mixed : Value → Value → Decimal96 → Decimal96 → Prop where
  | intFloat (n : Int64) {x : Float} {d : Decimal96} (h : Decimal96.ofFloat? x = some d) :
      Mixed (.int n) (.float x) (.ofInt64 n) d
  | floatInt (n : Int64) {x : Float} {d : Decimal96} (h : Decimal96.ofFloat? x = some d) :
      Mixed (.float x) (.int n) d (.ofInt64 n)

/-- The sum or difference of an integer and a float is too large for a decimal: rounded to a whole number
it has more than 96 bits. -/
inductive Arithmetic.Overflows : Arithmetic → Value → Value → Overflow → Prop where
  | addition {a b : Value} {x y : Decimal96} (hmixed : Mixed a b x y)
      (hlarge : 2 ^ 96 - 1 / 2 ≤ |x.toRat + y.toRat|) : Overflows .add a b .addition
  | subtraction {a b : Value} {x y : Decimal96} (hmixed : Mixed a b x y)
      (hlarge : 2 ^ 96 - 1 / 2 ≤ |x.toRat - y.toRat|) : Overflows .subtract a b .subtraction

variable {o : Overflow} {a b : Value}

theorem Mixed.holds {x y : Decimal96} (h : Mixed a b x y) : x.Holds ∧ y.Holds := by
  cases h with
  | intFloat n h => exact ⟨Decimal96.ofInt64_holds n, Decimal96.ofFloat?_holds h⟩
  | floatInt n h => exact ⟨Decimal96.ofFloat?_holds h, Decimal96.ofInt64_holds n⟩

namespace Arithmetic

theorem onFloats_ne_overflow (op : Arithmetic) (x y : Float) : op.onFloats x y ≠ .error (.overflow o) := by
  intro h
  simp only [onFloats] at h
  split at h <;> cases h

theorem onDecimals_eq_overflow_iff {op : Arithmetic} {x y : Decimal96} :
    op.onDecimals x y = .error (.overflow o) ↔
      (op = .add ∧ o = .addition ∧ x.add? y = none) ∨
        (op = .subtract ∧ o = .subtraction ∧ x.sub? y = none) := by
  cases op with
  | add => cases h : x.add? y <;> simp [onDecimals, h, eq_comm]
  | subtract => cases h : x.sub? y <;> simp [onDecimals, h, eq_comm]
  | multiply => simp [onDecimals]
  | divide | modulo => simp only [onDecimals]; split <;> simp [Run.fail]

theorem onMixed_eq_overflow_iff {op : Arithmetic} {dx dy : Option Decimal96} {fx fy : Float} :
    op.onMixed dx dy fx fy = .error (.overflow o) ↔
      ∃ x ∈ dx, ∃ y ∈ dy, op.onDecimals x y = .error (.overflow o) := by
  cases dx with
  | none => simp [onMixed, onFloats_ne_overflow]
  | some x =>
    cases dy with
    | none => simp [onMixed, onFloats_ne_overflow]
    | some y =>
      simp only [onMixed, bind_eq_error, Option.mem_def, Option.some.injEq, exists_eq_left']
      refine or_iff_left ?_
      rintro ⟨d, -, h⟩
      cases d with
      | none => exact onFloats_ne_overflow op fx fy h
      | some d => cases h

theorem overflows_iff {op : Arithmetic} :
    op.Overflows a b o ↔ ∃ x y, Mixed a b x y ∧ op.onDecimals x y = .error (.overflow o) := by
  simp only [onDecimals_eq_overflow_iff]
  constructor
  · rintro (⟨hmixed, hlarge⟩ | ⟨hmixed, hlarge⟩)
    · have hnone := (Decimal96.add?_eq_none_iff hmixed.holds.1 hmixed.holds.2).mpr hlarge
      exact ⟨_, _, hmixed, .inl ⟨rfl, rfl, hnone⟩⟩
    · have hnone := (Decimal96.sub?_eq_none_iff hmixed.holds.1 hmixed.holds.2).mpr hlarge
      exact ⟨_, _, hmixed, .inr ⟨rfl, rfl, hnone⟩⟩
  · rintro ⟨x, y, hmixed, ⟨rfl, rfl, hnone⟩ | ⟨rfl, rfl, hnone⟩⟩
    · exact .addition hmixed ((Decimal96.add?_eq_none_iff hmixed.holds.1 hmixed.holds.2).mp hnone)
    · exact .subtraction hmixed ((Decimal96.sub?_eq_none_iff hmixed.holds.1 hmixed.holds.2).mp hnone)

/-- **An operation overflows** exactly if its decimal result does not fit. -/
theorem apply_eq_overflow_iff {op : Arithmetic} : op.apply a b = .error (.overflow o) ↔ op.Overflows a b o := by
  rw [overflows_iff]
  constructor
  · intro h
    simp only [apply] at h
    split at h
    next a b =>
      rw [onInts] at h
      split at h
      · cases h
      · exact absurd h (onFloats_ne_overflow op _ _)
    next => exact absurd h (onFloats_ne_overflow op _ _)
    next n x =>
      obtain ⟨dn, hn, dx, hx, h⟩ := onMixed_eq_overflow_iff.mp h
      cases hn
      exact ⟨_, _, .intFloat n hx, h⟩
    next x n =>
      obtain ⟨dx, hx, dn, hn, h⟩ := onMixed_eq_overflow_iff.mp h
      cases hn
      exact ⟨_, _, .floatInt n hx, h⟩
    next => cases h
  · rintro ⟨x, y, hmixed, h⟩
    cases hmixed with
    | intFloat n hx => exact onMixed_eq_overflow_iff.mpr ⟨_, rfl, _, hx, h⟩
    | floatInt n hx => exact onMixed_eq_overflow_iff.mpr ⟨_, hx, _, rfl, h⟩

end Arithmetic

theorem BinaryOp.apply_eq_overflow_iff {op : BinaryOp} :
    op.apply a b = .error (.overflow o) ↔ ∃ op', op = .arithmetic op' ∧ op'.Overflows a b o := by
  rcases op with op | op | op
  · exact iff_of_false error_ne_ok.symm (by simp)
  · simp only [BinaryOp.arithmetic.injEq, exists_eq_left', ← Arithmetic.apply_eq_overflow_iff]
    simp only [BinaryOp.apply]
    split
    next => exact iff_of_false error_ne_ok.symm (by simp [Arithmetic.apply, Run.fail])
    next => exact Iff.rfl
  · cases op <;> exact iff_of_false error_ne_ok.symm (by simp)

theorem UnaryOp.apply_ne_overflow (op : UnaryOp) (v : Value) : op.apply v ≠ .error (.overflow o) := by
  intro h
  cases op with
  | not => cases h
  | negate =>
    cases v with
    | int n =>
      simp only [UnaryOp.apply, Value.negate] at h
      split at h <;> cases h
    | _ => cases h

theorem property_ne_overflow (v : Value) (name : String) : v.property name ≠ .error (.overflow o) := by
  intro h
  cases v <;> cases h

theorem lift_ne_overflow {ε α : Type} (r : Except ε α) : Run.lift r ≠ .error (.overflow o) := by
  intro h
  cases r <;> cases h

/-! ## Expressions -/

namespace Lambda

/-- Evaluation of an expression comes to apply an arithmetic operator to two values: everything that is
evaluated before them has a value. -/
inductive Expr.Reaches (env : Env) (op : Arithmetic) (a b : Value) : Expr → Prop where
  | here {left right : Expr} (hleft : left.eval env = .ok a) (hright : right.eval env = .ok b) :
      Reaches env op a b (.binary (.arithmetic op) left right)
  | property {object : Expr} {name : String} (h : Reaches env op a b object) :
      Reaches env op a b (.property object name)
  | argument {name : String} {before behind : List Expr} {e : Expr} {values : List Value}
      (hbefore : Expr.evalAll env before = .ok values) (h : Reaches env op a b e) :
      Reaches env op a b (.call name (before ++ e :: behind))
  | operand {sign : UnaryOp} {e : Expr} (h : Reaches env op a b e) :
      Reaches env op a b (.unary sign e)
  | left {between : BinaryOp} {left right : Expr} (h : Reaches env op a b left) :
      Reaches env op a b (.binary between left right)
  | right {between : BinaryOp} {left right : Expr} {v : Value} (hleft : left.eval env = .ok v)
      (hopen : ∀ connective, between = .connective connective → connective.decided? v.truthy = none)
      (h : Reaches env op a b right) : Reaches env op a b (.binary between left right)

variable {env : Env}

/-- A binary operator that is no connective is applied to the values of both operands. -/
theorem eval_binary {op : BinaryOp} {left right : Expr} (hop : ∀ c, op ≠ .connective c) :
    (Expr.binary op left right).eval env = (do
      let a ← left.eval env
      let b ← right.eval env
      op.apply a b) := by
  rcases op with op | op | op
  · rfl
  · rfl
  · exact absurd rfl (hop op)

theorem evalAll_error {before behind : List Expr} {values : List Value} {e : Expr} {cause : Failure EvalError}
    (hbefore : Expr.evalAll env before = .ok values) (h : e.eval env = .error cause) :
    Expr.evalAll env (before ++ e :: behind) = .error cause := by
  induction before generalizing values with
  | nil => simp only [List.nil_append, Expr.evalAll, h]; rfl
  | cons first rest ih =>
    obtain ⟨v, hv, hbefore⟩ := bind_eq_ok.mp hbefore
    obtain ⟨vs, hvs, -⟩ := bind_eq_ok.mp hbefore
    simp only [List.cons_append, Expr.evalAll, hv, ok_bind, ih hvs]
    rfl

/-- Evaluation that comes to an operation that overflows, overflows. -/
theorem Expr.Reaches.eval_overflow {op : Arithmetic} {e : Expr} (h : e.Reaches env op a b)
    (hoverflows : op.Overflows a b o) : e.eval env = .error (.overflow o) := by
  induction h with
  | here hleft hright =>
    simp only [Expr.eval, hleft, hright, ok_bind]
    exact BinaryOp.apply_eq_overflow_iff.mpr ⟨op, rfl, hoverflows⟩
  | property h ih => rw [Expr.eval, ih]; rfl
  | argument hbefore h ih => rw [Expr.eval, evalAll_error hbefore ih]; rfl
  | operand h ih => rw [Expr.eval, ih]; rfl
  | @left between left right h ih =>
    rcases between with op | op | op <;> (simp only [Expr.eval, ih]; rfl)
  | @right between left right v hleft hopen h ih =>
    rcases between with op | op | op
    · simp only [Expr.eval, hleft, ok_bind, ih]; rfl
    · simp only [Expr.eval, hleft, ok_bind, ih]; rfl
    · simp only [Expr.eval, hleft, ok_bind, hopen op rfl, ih]; rfl

mutual

/-- Evaluation that overflows comes to an operation that does. -/
theorem exists_reaches : (e : Expr) → e.eval env = .error (.overflow o) →
    ∃ op a b, e.Reaches env op a b ∧ op.Overflows a b o
  | .float _, h | .int _, h | .str _, h | .bool _, h | .null, h | .ident _, h => by cases h
  | .param name, h => by
    simp only [Expr.eval] at h
    split at h <;> cases h
  | .property object name, h => by
    rcases bind_eq_error.mp h with h | ⟨v, -, h⟩
    · obtain ⟨op, a, b, hreaches, ho⟩ := exists_reaches object h
      exact ⟨op, a, b, .property hreaches, ho⟩
    · exact absurd h (property_ne_overflow v name)
  | .call name args, h => by
    rcases bind_eq_error.mp h with h | ⟨vs, -, h⟩
    · obtain ⟨before, e, behind, values, rfl, hbefore, op, a, b, hreaches, ho⟩ := exists_reaches_args args h
      exact ⟨op, a, b, .argument hbefore hreaches, ho⟩
    · exact absurd h (lift_ne_overflow _)
  | .unary sign e, h => by
    rcases bind_eq_error.mp h with h | ⟨v, -, h⟩
    · obtain ⟨op, a, b, hreaches, ho⟩ := exists_reaches e h
      exact ⟨op, a, b, .operand hreaches, ho⟩
    · exact absurd h (sign.apply_ne_overflow v)
  | .binary between left right, h => by
    have hleft (h : left.eval env = .error (.overflow o)) :
        ∃ op a b, (Expr.binary between left right).Reaches env op a b ∧ op.Overflows a b o := by
      obtain ⟨op, a, b, hreaches, ho⟩ := exists_reaches left h
      exact ⟨op, a, b, .left hreaches, ho⟩
    have hright {v : Value} (hv : left.eval env = .ok v)
        (hopen : ∀ c, between = .connective c → c.decided? v.truthy = none)
        (h : right.eval env = .error (.overflow o)) :
        ∃ op a b, (Expr.binary between left right).Reaches env op a b ∧ op.Overflows a b o := by
      obtain ⟨op, a, b, hreaches, ho⟩ := exists_reaches right h
      exact ⟨op, a, b, .right hv hopen hreaches, ho⟩
    -- a connective may have a value without its right operand
    by_cases hconnective : ∃ c, between = .connective c
    · obtain ⟨c, rfl⟩ := hconnective
      rcases bind_eq_error.mp h with h | ⟨v, hv, h⟩
      · exact hleft h
      split at h
      next => cases h
      next hopen =>
        rcases bind_eq_error.mp h with h | ⟨w, -, h⟩
        · exact hright hv (fun c hc => by cases hc; exact hopen) h
        · cases h
    · rw [eval_binary fun c hc => hconnective ⟨c, hc⟩] at h
      rcases bind_eq_error.mp h with h | ⟨v, hv, h⟩
      · exact hleft h
      rcases bind_eq_error.mp h with h | ⟨w, hw, h⟩
      · exact hright hv (fun c hc => absurd ⟨c, hc⟩ hconnective) h
      obtain ⟨op, rfl, ho⟩ := BinaryOp.apply_eq_overflow_iff.mp h
      exact ⟨op, v, w, .here hv hw, ho⟩

/-- The first of some arguments that overflows. -/
theorem exists_reaches_args : (args : List Expr) → Expr.evalAll env args = .error (.overflow o) →
    ∃ before e behind values, args = before ++ e :: behind ∧ Expr.evalAll env before = .ok values ∧
      ∃ op a b, e.Reaches env op a b ∧ op.Overflows a b o
  | [], h => by cases h
  | first :: rest, h => by
    rcases bind_eq_error.mp h with h | ⟨v, hv, h⟩
    · exact ⟨[], first, rest, [], rfl, rfl, exists_reaches first h⟩
    rcases bind_eq_error.mp h with h | ⟨vs, -, h⟩
    · obtain ⟨before, e, behind, values, rfl, hbefore, hreaches⟩ := exists_reaches_args rest h
      refine ⟨first :: before, e, behind, v :: values, rfl, ?_, hreaches⟩
      rw [Expr.evalAll, hv, hbefore]
      rfl
    · cases h

end

/-- **An expression overflows** exactly if its evaluation comes to an operation that does. -/
theorem eval_overflow_iff {e : Expr} :
    e.eval env = .error (.overflow o) ↔ ∃ op a b, e.Reaches env op a b ∧ op.Overflows a b o := by
  refine ⟨exists_reaches e, ?_⟩
  rintro ⟨op, a, b, hreaches, ho⟩
  exact hreaches.eval_overflow ho

/-- **A lambda overflows** exactly if it is applied to as many values as it binds, and comes to add or
subtract an integer and a float whose decimal result does not fit. -/
theorem apply_overflow_iff (f : Lambda) (args : List Value) (o : Overflow) :
    f.apply args = .error (.overflow o) ↔ f.params.length = args.length ∧
      ∃ op a b, f.body.Reaches (f.params.zip args) op a b ∧ op.Overflows a b o := by
  rw [apply]
  split
  next h => exact eval_overflow_iff.trans (and_iff_right h).symm
  next h => exact iff_of_false (by simp [Run.fail]) fun h' => h h'.1

/-- The greatest integer added to the greatest float that is a decimal. -/
theorem apply_overflow_shows :
    ∃ f, parse "(a, b) => a + b" = .ok f ∧
      f.apply [.int 9223372036854775807, .float (Number.ofDecimal false 7922816251426433 13)] =
        .error (.overflow .addition) := by decide +kernel

end Lambda

end RowQuery
