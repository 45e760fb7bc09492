import RowQuery.Builtin.Registry
import RowQuery.Eval.Operation
import RowQuery.Proofs.Failure

/-!
# Errors of operators and functions

Operators, properties and functions see values only. Their errors are about values: none of them is an
undefined name or a wrong number of arguments for a lambda (`BinaryOp.apply_fromValues`,
`Builtin.call_fromValues`).
-/

namespace RowQuery

/-- Errors that come from values, and not from the names or the parameters of a lambda. -/
def EvalError.FromValues : EvalError → Prop
  | undefinedName _ | argumentCount .. => False
  | typeFault _ | unknownFunction _ | arity .. | invalidRegex _ | divisionByZero => True

/-- The causes of a failure all come from values. -/
def Failure.FromValues : Failure EvalError → Prop
  | error cause => cause.FromValues
  | overflow _ => True

section FailsOnly

variable {ε α β : Type} {P : ε → Prop} {x : Except ε α} {a : α} {e : ε}

/-- Whenever a computation fails, its error is of a kind. -/
def FailsOnly (P : ε → Prop) (x : Except ε α) : Prop :=
  ∀ e, x = .error e → P e

@[simp] theorem failsOnly_ok : FailsOnly P (.ok a) := fun _ h => nomatch h

@[simp] theorem failsOnly_pure : FailsOnly P (pure a : Except ε α) := failsOnly_ok

@[simp] theorem failsOnly_error : FailsOnly P (.error e : Except ε α) ↔ P e :=
  ⟨fun h => h e rfl, fun h e' h' => by cases h'; exact h⟩

theorem FailsOnly.mono {Q : ε → Prop} (h : FailsOnly P x) (hPQ : ∀ e, P e → Q e) : FailsOnly Q x :=
  fun e he => hPQ e (h e he)

theorem FailsOnly.bind {f : α → Except ε β} (h : FailsOnly P x) (hf : ∀ a, FailsOnly P (f a)) :
    FailsOnly P (x >>= f) := by
  intro e he
  rcases bind_eq_error.mp he with he | ⟨a, -, he⟩
  · exact h e he
  · exact hf a e he

theorem FailsOnly.map {f : α → β} (h : FailsOnly P x) : FailsOnly P (x.map f) := by
  cases x with
  | error e => exact failsOnly_error.mpr (failsOnly_error.mp h)
  | ok a => exact failsOnly_ok

end FailsOnly

/-! ## Operators -/

theorem lift_fromValues {α : Type} {x : Except EvalError α} (h : FailsOnly EvalError.FromValues x) :
    FailsOnly Failure.FromValues (Run.lift x) := by
  cases x with
  | error cause => exact failsOnly_error.mpr (h cause rfl)
  | ok a => exact failsOnly_ok

theorem fail_fromValues {α : Type} {cause : EvalError} (h : cause.FromValues) :
    FailsOnly Failure.FromValues (Run.fail cause : Eval α) :=
  failsOnly_error.mpr h

namespace Arithmetic

open Number

theorem onFloats_fromValues (op : Arithmetic) (x y : Float) : FailsOnly Failure.FromValues (op.onFloats x y) := by
  rw [onFloats]
  split
  · exact failsOnly_ok
  · exact fail_fromValues trivial

theorem onDecimals_fromValues (op : Arithmetic) (x y : Decimal96) :
    FailsOnly Failure.FromValues (op.onDecimals x y) := by
  cases op with
  | add | subtract =>
    simp only [onDecimals]
    split
    · exact failsOnly_ok
    · exact failsOnly_error.mpr trivial
  | multiply => exact failsOnly_ok
  | divide | modulo =>
    simp only [onDecimals]
    split
    · exact fail_fromValues trivial
    · exact failsOnly_ok

theorem onMixed_fromValues (op : Arithmetic) (dx dy : Option Decimal96) (x y : Float) :
    FailsOnly Failure.FromValues (op.onMixed dx dy x y) := by
  cases dx with
  | none => exact onFloats_fromValues op x y
  | some dx =>
    cases dy with
    | none => exact onFloats_fromValues op x y
    | some dy =>
      refine (onDecimals_fromValues op dx dy).bind fun d => ?_
      cases d with
      | none => exact onFloats_fromValues op x y
      | some d => exact failsOnly_pure

theorem apply_fromValues (op : Arithmetic) (a b : Value) : FailsOnly Failure.FromValues (op.apply a b) := by
  unfold apply
  split
  · unfold onInts
    split
    · exact failsOnly_ok
    · exact onFloats_fromValues op _ _
  · exact onFloats_fromValues op _ _
  · exact onMixed_fromValues op _ _ _ _
  · exact onMixed_fromValues op _ _ _ _
  · exact fail_fromValues trivial

end Arithmetic

theorem BinaryOp.apply_fromValues (op : BinaryOp) (a b : Value) : FailsOnly Failure.FromValues (op.apply a b) := by
  unfold BinaryOp.apply
  split
  · exact failsOnly_ok
  · split
    · exact failsOnly_ok
    · exact Arithmetic.apply_fromValues _ a b
  · exact failsOnly_ok
  · exact failsOnly_ok

theorem UnaryOp.apply_fromValues (op : UnaryOp) (v : Value) : FailsOnly Failure.FromValues (op.apply v) := by
  cases op with
  | not => exact failsOnly_ok
  | negate =>
    cases v with
    | int n =>
      simp only [UnaryOp.apply, Value.negate]
      split <;> exact failsOnly_ok
    | float x => exact failsOnly_ok
    | _ => exact fail_fromValues trivial

theorem Value.property_fromValues (v : Value) (name : String) :
    FailsOnly Failure.FromValues (v.property name) := by
  cases v with
  | object | null => exact failsOnly_ok
  | _ => exact fail_fromValues trivial

/-! ## Functions -/

namespace Builtin

/-- A function whose errors come from values, whatever it is called with. -/
def Body.FromValues : Body → Prop
  | one f => ∀ name v, FailsOnly EvalError.FromValues (f name v)
  | oneOrTwo f => ∀ name v w, FailsOnly EvalError.FromValues (f name v w)
  | two f => ∀ name v w, FailsOnly EvalError.FromValues (f name v w)
  | twoOrThree f => ∀ name v w u, FailsOnly EvalError.FromValues (f name v w u)
  | oneOrMore f | anyNumber f => ∀ name vs, FailsOnly EvalError.FromValues (f name vs)

theorem Body.FromValues.call {body : Body} (h : body.FromValues) (name : String) (args : List Value) :
    FailsOnly EvalError.FromValues (body.call name args) := by
  unfold Body.call
  split
  all_goals first | exact h _ _ | exact h _ _ _ | exact h _ _ _ _ | exact failsOnly_error.mpr trivial

theorem number_fromValues (name : String) (v : Value) : FailsOnly EvalError.FromValues (number name v) := by
  unfold number
  split
  · exact failsOnly_ok
  · exact failsOnly_error.mpr trivial

theorem text_fromValues (name : String) (v : Value) : FailsOnly EvalError.FromValues (text name v) := by
  cases v with
  | str s => exact failsOnly_ok
  | _ => exact failsOnly_error.mpr trivial

@[simp] theorem onText_fromValues (f : String → Value) : (onText f).FromValues :=
  fun name v => (text_fromValues name v).map

@[simp] theorem test_fromValues (p : Value → Bool) : (test p).FromValues :=
  fun _ _ => failsOnly_ok

@[simp] theorem rounded_fromValues (rounding : Float → Float) : (rounded rounding).FromValues := by
  intro name v
  exact (number_fromValues name v).map

@[simp] theorem extreme_fromValues (wanted : Ordering) : (extreme wanted).FromValues :=
  fun _ _ => failsOnly_ok

@[simp] theorem sqrt_fromValues : sqrt.FromValues := by
  intro name v
  exact (number_fromValues name v).map

/-- A function that treats integers apart. -/
theorem failsOnly_ofInt {f : Int64 → Result} {g : Value → Result}
    (hf : ∀ n, FailsOnly EvalError.FromValues (f n)) (hg : ∀ v, FailsOnly EvalError.FromValues (g v))
    (v : Value) :
    FailsOnly EvalError.FromValues (match v with | .int n => f n | v => g v) := by
  cases v with
  | int n => exact hf n
  | _ => exact hg _

-- Splitting on the value here would have the kernel compute whether the magnitude fits 64 bits.
@[simp] theorem abs_fromValues : abs.FromValues := by
  intro name
  refine failsOnly_ofInt (fun n => ?_) fun v => (number_fromValues name v).map
  split <;> exact failsOnly_ok

@[simp] theorem round_fromValues : round.FromValues := by
  intro name v places
  refine (number_fromValues name v).bind fun x => ?_
  cases places with
  | none => exact failsOnly_pure
  | some places => exact (number_fromValues name places).bind fun _ => failsOnly_pure

@[simp] theorem pow_fromValues : pow.FromValues := by
  intro name base exponent
  dsimp only
  split
  · split <;> exact failsOnly_ok
  · exact (number_fromValues name base).bind fun _ =>
      (number_fromValues name exponent).bind fun _ => failsOnly_pure

@[simp] theorem length_fromValues : length.FromValues := by
  intro name v
  cases v with
  | str | array | object => exact failsOnly_ok
  | _ => exact failsOnly_error.mpr trivial

@[simp] theorem substr_fromValues : substr.FromValues := by
  intro name v start len
  refine (text_fromValues name v).bind fun s => (number_fromValues name start).bind fun first => ?_
  cases len with
  | none => exact failsOnly_pure
  | some len => exact (number_fromValues name len).bind fun _ => failsOnly_pure

@[simp] theorem contains_fromValues : contains.FromValues := by
  intro name hay needle
  dsimp only
  split
  · exact failsOnly_ok
  · exact failsOnly_ok
  · exact failsOnly_error.mpr trivial

/-- A function on two strings. -/
theorem texts_fromValues {f : String → String → Result} (hf : ∀ s t, FailsOnly EvalError.FromValues (f s t))
    (name : String) (v w : Value) :
    FailsOnly EvalError.FromValues (do f (← text name v) (← text name w)) :=
  (text_fromValues name v).bind fun s => (text_fromValues name w).bind fun t => hf s t

@[simp] theorem substringOf_fromValues : substringOf.FromValues :=
  fun name v w => texts_fromValues (fun _ _ => failsOnly_pure) name v w

@[simp] theorem startsWith_fromValues : startsWith.FromValues :=
  fun name v w => texts_fromValues (fun _ _ => failsOnly_pure) name v w

@[simp] theorem endsWith_fromValues : endsWith.FromValues :=
  fun name v w => texts_fromValues (fun _ _ => failsOnly_pure) name v w

@[simp] theorem matchesPattern_fromValues : matchesPattern.FromValues := by
  refine fun name v w => texts_fromValues (fun s t => ?_) name v w
  split
  · exact failsOnly_pure
  · exact failsOnly_error.mpr trivial

@[simp] theorem concat_fromValues : concat.FromValues :=
  fun _ _ => failsOnly_ok

@[simp] theorem coalesce_fromValues : coalesce.FromValues :=
  fun _ _ => failsOnly_ok

@[simp] theorem toInt_fromValues : toInt.FromValues := by
  intro name v
  cases v with
  | str s =>
    dsimp only
    split <;> exact failsOnly_ok
  | _ => exact failsOnly_ok

@[simp] theorem toFloat_fromValues : toFloat.FromValues := by
  intro name v
  dsimp only
  split
  · split <;> exact failsOnly_ok
  · exact failsOnly_ok
  · split <;> exact failsOnly_ok

@[simp] theorem toText_fromValues : toText.FromValues :=
  fun _ _ => failsOnly_ok

@[simp] theorem isA_fromValues : isA.FromValues :=
  fun name _ typeName => (text_fromValues name typeName).map

theorem functions_fromValues : ∀ f ∈ localFunctions ++ nativeFunctions, f.2.FromValues := by
  simp [localFunctions, nativeFunctions, lower, upper, trim]

/-- **Functions fail because of their arguments only.** -/
theorem call_fromValues (name : String) (args : List Value) :
    FailsOnly EvalError.FromValues (call name args) := by
  rw [call]
  split
  next body hbody =>
    obtain ⟨f, hf, rfl⟩ := Option.map_eq_some_iff.mp hbody
    exact (functions_fromValues f (List.mem_of_find?_eq_some hf)).call name args
  next => exact failsOnly_error.mpr trivial

end Builtin

end RowQuery
