import RowQuery.Fields
import RowQuery.Number.Scan
import RowQuery.Value.Basic

/-!
# JSON values

A JSON number is a whole number of up to 64 bits or a float. `Value.ofJson` keeps the whole numbers that
an integer value can hold; `Value.toJson` has no number for infinities and NaN.
-/

namespace RowQuery

inductive Json where
  | null
  | bool (b : Bool)
  /-- From -2^63 to 2^64 - 1. -/
  | int (n : Int)
  | float (x : Float)
  | str (s : String)
  | array (items : List Json)
  /-- Members in increasing order of names. -/
  | object (members : List (String × Json))
  deriving Inhabited

namespace Value

mutual

/-- Value of a JSON text; a whole number above the integers becomes a float. -/
def ofJson : Json → Value
  | .null => null
  | .bool b => bool b
  | .int n =>
    match Number.int64OfInt? n with
    | some m => int m
    | none => float (Number.ofInt n)
  | .float x => float x
  | .str s => str s
  | .array items => array (ofJsonItems items)
  | .object members => object (ofJsonMembers members)

def ofJsonItems : List Json → List Value
  | [] => []
  | j :: rest => ofJson j :: ofJsonItems rest

def ofJsonMembers : List (String × Json) → List (String × Value)
  | [] => []
  | (name, j) :: rest => (name, ofJson j) :: ofJsonMembers rest

end

mutual

/-- JSON form of a value; floats that are no numbers become null. -/
def toJson : Value → Json
  | null => .null
  | bool b => .bool b
  | int n => .int n.toInt
  | float x => if Number.isFinite x then .float x else .null
  | str s => .str s
  | array items => .array (toJsonItems items)
  | object fields => .object (toJsonMembers fields)

def toJsonItems : List Value → List Json
  | [] => []
  | v :: rest => toJson v :: toJsonItems rest

def toJsonMembers : List (String × Value) → List (String × Json)
  | [] => []
  | (name, v) :: rest => (name, toJson v) :: toJsonMembers rest

end

end Value

end RowQuery
