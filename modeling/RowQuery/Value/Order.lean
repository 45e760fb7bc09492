import RowQuery.Value.Basic

/-!
# Order of values

`compare?` orders values of one kind, `sortCompare` all values: kinds that do not compare are ranked
null, boolean, number, string, array, object, and NaN comes after every other number.
-/

namespace RowQuery.Value

open RowQuery

def compareBool (a b : Bool) : Ordering :=
  Ord.compare a.toNat b.toNat

def compareInt (a b : Int64) : Ordering :=
  Ord.compare a.toInt b.toInt

/-- Order of texts by code points. -/
def compareText (s t : String) : Ordering :=
  if s < t then .lt else if s = t then .eq else .gt

/-- Order of two values of a comparable kind. Integers compare exactly; an integer and a float compare
as floats. -/
def compare? : Value → Value → Option Ordering
  | int a, int b => some (compareInt a b)
  | int a, float b => Number.compare? (Number.ofInt64 a) b
  | float a, int b => Number.compare? a (Number.ofInt64 b)
  | float a, float b => Number.compare? a b
  | str a, str b => some (compareText a b)
  | bool a, bool b => some (compareBool a b)
  | null, null => some .eq
  | _, _ => none

/-- Rank of a kind of value when kinds are sorted. -/
def rank : Value → Nat
  | null => 0
  | bool _ => 1
  | int _ | float _ => 2
  | str _ => 3
  | array _ => 4
  | object _ => 5

/-- Whether a value is the number NaN. -/
def isNaN : Value → Bool
  | float x => Number.isNaN x
  | _ => false

/-- Order for sorting. -/
def sortCompare (a b : Value) : Ordering :=
  if a.isNumeric && b.isNumeric && (a.isNaN || b.isNaN) then compareBool a.isNaN b.isNaN
  else (a.compare? b).getD (Ord.compare a.rank b.rank)

end RowQuery.Value
