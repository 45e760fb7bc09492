import RowQuery.Fields
import RowQuery.Number.Binary64

/-!
# Values

Records and scalars that flow through a query. Integers and floats are kept apart: `strictEq` tells
`1` from `1.0`, `looseEq` does not.
-/

namespace RowQuery

open Number

inductive Value where
  | null
  | bool (b : Bool)
  | int (n : Int64)
  | float (x : Float)
  | str (s : String)
  | array (items : List Value)
  /-- Fields in increasing order of names. -/
  | object (fields : List (String × Value))
  deriving Inhabited

namespace Value

/-- Whether a value counts as true in a condition. -/
def truthy : Value → Bool
  | null => false
  | bool b => b
  | int n => n != 0
  | float x => !Number.isZero x
  | str s => s != ""
  | array items => !items.isEmpty
  | object fields => !fields.isEmpty

def asFloat? : Value → Option Float
  | int n => some (Number.ofInt64 n)
  | float x => some x
  | _ => none

/-- The nearest integer of a number, kept within 64 bits. -/
def asInt? : Value → Option Int64
  | int n => some n
  | float x => some (Number.toInt64 (Number.round x))
  | _ => none

/-- A field of an object. -/
def get? : Value → String → Option Value
  | object fields, name => Fields.get? fields name
  | _, _ => none

def typeName : Value → String
  | null => "null"
  | bool _ => "boolean"
  | int _ => "integer"
  | float _ => "float"
  | str _ => "string"
  | array _ => "array"
  | object _ => "object"

def isNumeric : Value → Bool
  | int _ | float _ => true
  | _ => false

mutual

/-- Equality that tells integers from floats. Zeros of either sign are equal, NaN equals nothing. -/
def strictEq : Value → Value → Bool
  | null, null => true
  | bool a, bool b => a == b
  | int a, int b => a == b
  | float a, float b => Number.same a b
  | str a, str b => a == b
  | array as, array bs => strictEqItems as bs
  | object as, object bs => strictEqFields as bs
  | _, _ => false

def strictEqItems : List Value → List Value → Bool
  | [], [] => true
  | a :: as, b :: bs => strictEq a b && strictEqItems as bs
  | _, _ => false

def strictEqFields : List (String × Value) → List (String × Value) → Bool
  | [], [] => true
  | (k, a) :: as, (l, b) :: bs => k == l && strictEq a b && strictEqFields as bs
  | _, _ => false

end

/-- Equality that compares an integer and a float by numeric value. -/
def looseEq : Value → Value → Bool
  | int a, float b => Number.same (Number.ofInt64 a) b
  | float a, int b => Number.same a (Number.ofInt64 b)
  | a, b => strictEq a b

/-- Whether a value is the given text. -/
def isStr (v : Value) (s : String) : Bool :=
  match v with
  | str t => t == s
  | _ => false

theorem isStr_iff {v : Value} {s : String} : v.isStr s = true ↔ v = str s := by
  cases v <;> simp [isStr]

end Value

end RowQuery
