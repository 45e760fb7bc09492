import RowQuery.Eval.Error
import RowQuery.Number.Decimal96
import RowQuery.Number.Scan

/-!
# Arithmetic on numbers

Two integers give the exact integer where it fits 64 bits, and otherwise the float that the operation
gives on the nearest floats. Two floats give a float. An integer and a float are computed as decimals,
where both have a decimal form; a whole result comes back as an integer.
-/

namespace RowQuery.Arithmetic

open RowQuery Number

/-- The operation on floats; division by zero has no result. -/
def onFloats? (op : Arithmetic) (a b : Float) : Option Float :=
  match op with
  | add => some (a + b)
  | subtract => some (a - b)
  | multiply => some (a * b)
  | divide => if Number.isZero b then none else some (a / b)
  | modulo => if Number.isZero b then none else some (fmod a b)

def onFloats (op : Arithmetic) (a b : Float) : Eval Value :=
  match op.onFloats? a b with
  | some x => .ok (.float x)
  | none => Run.fail .divisionByZero

/-- The exact result on integers, if it is an integer; division by zero has none. -/
def exactInt? (op : Arithmetic) (a b : Int) : Option Int :=
  match op with
  | add => some (a + b)
  | subtract => some (a - b)
  | multiply => some (a * b)
  | divide => if b ≠ 0 ∧ a.tmod b = 0 then some (a.tdiv b) else none
  | modulo => if b ≠ 0 then some (a.tmod b) else none

def onInts (op : Arithmetic) (a b : Int64) : Eval Value :=
  match (op.exactInt? a.toInt b.toInt).bind int64OfInt? with
  | some n => .ok (.int n)
  | none => op.onFloats (ofInt64 a) (ofInt64 b)

/-- The operation on decimals: nothing where the result does not fit, except that a sum or difference
then fails for good. -/
def onDecimals (op : Arithmetic) (a b : Decimal96) : Eval (Option Decimal96) :=
  match op with
  | add =>
    match a.add? b with
    | some d => .ok (some d)
    | none => .error (.overflow .addition)
  | subtract =>
    match a.sub? b with
    | some d => .ok (some d)
    | none => .error (.overflow .subtraction)
  | multiply => .ok (a.mul? b)
  | divide => if b.isZero then Run.fail .divisionByZero else .ok (a.div? b)
  | modulo => if b.isZero then Run.fail .divisionByZero else .ok (some (a.rem b))

/-- Number for a decimal: an integer, if it is one of 64 bits. -/
def ofDecimal (d : Decimal96) : Value :=
  match d.toInt?.bind int64OfInt? with
  | some n => .int n
  | none => .float d.toFloat

/-- An operation on an integer and a float, in either order, given the decimal and the float forms of
both. -/
def onMixed (op : Arithmetic) (da db : Option Decimal96) (a b : Float) : Eval Value :=
  match da, db with
  | some da, some db => do
    match ← op.onDecimals da db with
    | some d => return ofDecimal d
    | none => op.onFloats a b
  | _, _ => op.onFloats a b

def apply (op : Arithmetic) (left right : Value) : Eval Value :=
  match left, right with
  | .int a, .int b => op.onInts a b
  | .float a, .float b => op.onFloats a b
  | .int a, .float b =>
    op.onMixed (some (Decimal96.ofInt64 a)) (Decimal96.ofFloat? b) (ofInt64 a) b
  | .float a, .int b =>
    op.onMixed (Decimal96.ofFloat? a) (some (Decimal96.ofInt64 b)) a (ofInt64 b)
  | a, b => Run.fail (.typeFault (.arithmetic op a.typeName b.typeName))

end RowQuery.Arithmetic
