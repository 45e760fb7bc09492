import RowQuery.Builtin.Basic
import RowQuery.Number.Scan
import RowQuery.Value.Order

/-!
# Numeric functions
-/

namespace RowQuery.Builtin

open Number

/-- Integer for a whole float below 2^63 in magnitude, else the float. -/
def integral (x : Float) : Value :=
  if isWhole x && (wholePart x).natAbs < 2 ^ 63 then .int (Int64.ofInt (wholePart x)) else .float x

def rounded (rounding : Float → Float) : Body :=
  .one fun name v => (number name v).map fun x => integral (rounding x)

def abs : Body :=
  .one fun name v =>
    match v with
    | .int n =>
      match int64OfInt? n.toInt.natAbs with
      | some m => .ok (.int m)
      | none => .ok (.float (Number.abs (ofInt64 n)))
    | v => (number name v).map fun x => .float (Number.abs x)

/-- Rounds to a whole number, or to a number of decimal places given by a 32-bit integer. -/
def round : Body :=
  .oneOrTwo fun name v places => do
    let x ← number name v
    match places with
    | none => return integral (Number.round x)
    | some places =>
      let factor := powInt 10.0 (clampedPart (-2 ^ 31) (2 ^ 31 - 1) (← number name places))
      return .float (Number.round (x * factor) / factor)

def sqrt : Body :=
  .one fun name v => (number name v).map fun x => .float x.sqrt

/-- Power of an integer, if it fits 64 bits. -/
def intPow? (base : Int) (exponent : Nat) : Option Int64 :=
  if base.natAbs ≤ 1 then int64OfInt? (base ^ min exponent (2 + exponent % 2))
  else if exponent < 64 then int64OfInt? (base ^ exponent)
  else none

/-- Integers with an exponent from 0 to 2^32 - 1 give an integer where it fits. -/
def pow : Body :=
  .two fun name base exponent =>
    match base, exponent with
    | .int b, .int e =>
      let whole? :=
        if 0 ≤ e.toInt ∧ e.toInt < 2 ^ 32 then intPow? b.toInt e.toInt.toNat else none
      match whole? with
      | some n => .ok (.int n)
      | none => .ok (.float (Float.pow (ofInt64 b) (ofInt64 e)))
    | base, exponent => do
      let b ← number name base
      let e ← number name exponent
      return .float (Float.pow b e)

/-- The first element that no later one beats: a later element wins where it compares as `wanted` with
the best so far. -/
def extremeOf (wanted : Ordering) (items : List Value) : Option Value :=
  items.foldl (fun best v =>
    match best with
    | none => some v
    | some b => if v.sortCompare b = wanted then some v else some b) none

/-- Extreme of the arguments, or of the elements of a single array; null if there are none. -/
def extreme (wanted : Ordering) : Body :=
  .oneOrMore fun _ args =>
    let items :=
      match args with
      | [.array items] => items
      | args => args
    .ok ((extremeOf wanted items).getD .null)

end RowQuery.Builtin
