import RowQuery.Filter.Eval
import RowQuery.Lambda.Eval
import RowQuery.Proofs.Failure
import RowQuery.Proofs.PushDown.Askable
import RowQuery.Proofs.PushDown.Image

/-!
# Evaluating a predicate and its filter

An expression and its image have the same value for a record, wherever the expression has one; for
objects and null they also fail alike (`agrees_image`). Strict comparisons are excluded, because filters
have none, and so are infinite floats, because no filter can write them.
-/

namespace RowQuery

namespace Lambda

mutual

/-- Whether a test holds of an expression and of all its parts. -/
def Expr.everywhere (test : Expr → Bool) : Expr → Bool
  | .property object name => test (.property object name) && object.everywhere test
  | .call name args => test (.call name args) && Expr.everywhereIn test args
  | .unary op e => test (.unary op e) && e.everywhere test
  | .binary op left right =>
    test (.binary op left right) && left.everywhere test && right.everywhere test
  | e => test e

def Expr.everywhereIn (test : Expr → Bool) : List Expr → Bool
  | [] => true
  | e :: rest => e.everywhere test && Expr.everywhereIn test rest

end

theorem Expr.everywhereIn_iff {test : Expr → Bool} {args : List Expr} :
    Expr.everywhereIn test args = true ↔ ∀ a ∈ args, a.everywhere test = true := by
  induction args with
  | nil => simp [Expr.everywhereIn]
  | cons e rest ih => simp [Expr.everywhereIn, ih]

/-- Whether an expression is no strict comparison. -/
def Expr.isLoose : Expr → Bool
  | .binary (.comparison .strictEqual) _ _ | .binary (.comparison .strictNotEqual) _ _ => false
  | _ => true

/-- Whether an expression is no name that nothing binds. -/
def Expr.isBound : Expr → Bool
  | .ident _ => false
  | _ => true

/-- Whether an expression is no infinite float. -/
def Expr.isWritable : Expr → Bool
  | .float x => Number.isFinite x
  | _ => true

end Lambda

namespace PushDown

open Lambda

/-! ## Outcomes that agree -/

/-- The second computation has every value of the first; if `exact` holds it also has its failures. -/
def Agrees {α : Type} (exact : Prop) (x y : Eval α) : Prop :=
  (∀ v, x = .ok v → y = .ok v) ∧ (exact → x = y)

variable {α β : Type} {exact : Prop}

theorem Agrees.refl (x : Eval α) : Agrees exact x x :=
  ⟨fun _ h => h, fun _ => rfl⟩

/-- A computation that fails says nothing about the other. -/
theorem Agrees.of_fail {e : Failure EvalError} {y : Eval α} (h : exact → .error e = y) :
    Agrees exact (.error e) y :=
  ⟨fun _ h => (nomatch h), h⟩

theorem Agrees.bind {x y : Eval α} {g h : α → Eval β} (hxy : Agrees exact x y)
    (hgh : ∀ v, Agrees exact (g v) (h v)) : Agrees exact (x >>= g) (y >>= h) := by
  refine ⟨fun v hv => ?_, fun hexact => ?_⟩
  · obtain ⟨a, ha, hv⟩ := bind_eq_ok.mp hv
    exact bind_eq_ok.mpr ⟨a, hxy.1 a ha, (hgh a).1 v hv⟩
  · rw [hxy.2 hexact]
    cases y with
    | error e => rfl
    | ok a => exact (hgh a).2 hexact

/-! ## Expressions -/

variable {f : Lambda} {p : String} {record : Value} {e : Expr}

theorem apply_imageOp {op : BinaryOp} {left right : Expr} (a b : Value)
    (h : (Expr.binary op left right).isLoose = true) :
    (imageOp op).general.apply a b = op.apply a b := by
  rcases op with op | op | op
  · cases op <;> first | rfl | cases h
  · rfl
  · rfl

/-- Objects and null answer for every property what a filter reads. -/
theorem property_of_record (hrecord : record = .null ∨ ∃ fields, record = .object fields)
    (name : String) : record.property name = .ok ((record.get? name).getD .null) := by
  rcases hrecord with rfl | ⟨fields, rfl⟩ <;> rfl

theorem agrees_property (hrecord : exact → record = .null ∨ ∃ fields, record = .object fields)
    (name : String) : Agrees exact (record.property name) (.ok ((record.get? name).getD .null)) := by
  refine ⟨fun v hv => ?_, fun hexact => property_of_record (hrecord hexact) name⟩
  cases record with
  | null => exact hv
  | object fields => exact hv
  | _ => cases hv

theorem agrees_args {args : List Expr}
    (h : ∀ a ∈ args, Agrees exact (a.eval [(p, record)]) ((image a).eval record)) :
    Agrees exact (Expr.evalAll [(p, record)] args) (Filter.Expr.evalAll record (imageAll args)) := by
  induction args with
  | nil => exact .refl _
  | cons a args ih =>
    rw [Expr.evalAll, imageAll, Filter.Expr.evalAll]
    obtain ⟨ha, hargs⟩ := List.forall_mem_cons.mp h
    exact ha.bind fun _ => (ih hargs).bind fun _ => .refl _

/-- **An expression and its filter have the same values**, and the same failures where the record is an
object or null and no name is free. -/
theorem agrees_image (exact : Prop) (hparams : f.params = [p]) (h : Askable f e)
    (hloose : e.everywhere Expr.isLoose = true) (hwritable : e.everywhere Expr.isWritable = true)
    (hbound : exact → e.everywhere Expr.isBound = true)
    (hrecord : exact → record = .null ∨ ∃ fields, record = .object fields) :
    Agrees exact (e.eval [(p, record)]) ((image e).eval record) := by
  induction h with
  | float x =>
    have hx : Number.isFinite x = true := hwritable
    simp only [image, hx, if_true, Expr.eval, Filter.Expr.eval]
    exact .refl _
  | int n => exact .refl _
  | str s => exact .refl _
  | bool b => exact .refl _
  | null => exact .refl _
  | ident hn hx => exact .of_fail fun hexact => absurd (hbound hexact) Bool.false_ne_true
  | @property q x hp hx =>
    obtain rfl : q = p := by simpa [Lambda.binds, hparams] using hp
    have hvalue : (Expr.property (.param q) x).eval [(q, record)] = record.property x := by
      simp only [Expr.eval, List.lookup_cons, beq_self_eq_true]
      rfl
    rw [hvalue, image, Filter.Expr.eval]
    exact agrees_property hrecord x
  | @call name args hnative hargs ih =>
    simp only [Expr.everywhere, Bool.and_eq_true, Expr.everywhereIn_iff] at hloose hwritable hbound
    rw [Expr.eval, image, Filter.Expr.eval]
    refine Agrees.bind (agrees_args fun a ha => ?_) fun _ => .refl _
    exact ih a ha (hloose.2 a ha) (hwritable.2 a ha) fun hexact => (hbound hexact).2 a ha
  | unary h ih =>
    simp only [Expr.everywhere, Bool.and_eq_true] at hloose hwritable hbound
    rw [Expr.eval, image, Filter.Expr.eval]
    exact (ih hloose.2 hwritable.2 fun hexact => (hbound hexact).2).bind fun _ => .refl _
  | @binary op left right hl hr ihl ihr =>
    simp only [Expr.everywhere, Bool.and_eq_true] at hloose hwritable hbound
    have hleft := ihl hloose.1.2 hwritable.1.2 fun hexact => (hbound hexact).1.2
    have hright := ihr hloose.2 hwritable.2 fun hexact => (hbound hexact).2
    have happly := fun a b => apply_imageOp a b hloose.1.1
    rcases op with op | op | op
    · rw [Expr.eval, image, imageOp, Filter.Expr.eval]
      refine hleft.bind fun a => hright.bind fun b => ?_
      exact happly a b ▸ .refl _
      all_goals rintro _ ⟨⟩
    · rw [Expr.eval, image, imageOp, Filter.Expr.eval]
      refine hleft.bind fun a => hright.bind fun b => .refl _
      all_goals rintro _ ⟨⟩
    · rw [Expr.eval, image, imageOp, Filter.Expr.eval]
      refine hleft.bind fun a => ?_
      cases op.decided? a.truthy with
      | some b => exact .refl _
      | none => exact hright.bind fun b => .refl _

theorem call_eq_eval (hparams : f.params = [p]) (v : Value) : f.call v = f.body.eval [(p, v)] := by
  simp [Lambda.call, Lambda.apply, hparams]

/-- A filter has every value that its predicate has. -/
theorem image_of_call (hparams : f.params = [p]) (h : Askable f f.body)
    (hloose : f.body.everywhere Expr.isLoose = true) (hwritable : f.body.everywhere Expr.isWritable = true)
    (row v : Value) (hv : f.call row = .ok v) : (image f.body).eval row = .ok v := by
  rw [call_eq_eval hparams] at hv
  exact (agrees_image False hparams h hloose hwritable False.elim False.elim).1 v hv

end PushDown

end RowQuery
