import RowQuery.Builtin.Basic
import RowQuery.Number.Scan
import RowQuery.Text.Case
import RowQuery.Text.Search
import RowQuery.Value.Canonical

/-!
# Conversions and type checks
-/

namespace RowQuery.Builtin

open Number

/-- Integer for a value: a string is read as an integer or, failing that, as a float; a float loses its
fraction. Null where there is none. -/
def toInt : Body :=
  .one fun _ v =>
    match v with
    | .str s =>
      let cs := Text.trim s.toList
      match int64? cs, float? cs with
      | some n, _ => .ok (.int n)
      | none, some x => .ok (.int (toInt64 x))
      | none, none => .ok .null
    | .bool b => .ok (.int (if b then 1 else 0))
    | .float x => .ok (.int (toInt64 x))
    | .int n => .ok (.int n)
    | _ => .ok .null

def toFloat : Body :=
  .one fun _ v =>
    match v with
    | .str s =>
      match float? (Text.trim s.toList) with
      | some x => .ok (.float x)
      | none => .ok .null
    | .bool b => .ok (.float (ofNat b.toNat))
    | v =>
      match v.asFloat? with
      | some x => .ok (.float x)
      | none => .ok .null

def toText : Body :=
  .one fun _ v => .ok (.str v.plainText)

def isNull : Value → Bool
  | .null => true
  | _ => false

/-- The first argument that is not null. -/
def coalesce : Body :=
  .anyNumber fun _ args => .ok ((args.find? fun v => !isNull v).getD .null)

def isArray : Value → Bool
  | .array _ => true
  | _ => false

def isBool : Value → Bool
  | .bool _ => true
  | _ => false

def isFloat : Value → Bool
  | .float _ => true
  | _ => false

def isInteger : Value → Bool
  | .int _ => true
  | _ => false

def isObject : Value → Bool
  | .object _ => true
  | _ => false

def isString : Value → Bool
  | .str _ => true
  | _ => false

/-- Numbers, and strings that read as a number. -/
def isNumeric : Value → Bool
  | .str s => (float? (Text.trim s.toList)).isSome
  | v => v.isNumeric

def isScalar : Value → Bool
  | .bool _ | .int _ | .float _ | .str _ => true
  | _ => false

/-- Field that carries the type name of a record. -/
def typeField : String := "__type"

/-- Whether a value carries a type name, or is of the kind so named in any case. -/
def isOfType (v : Value) (typeName : String) : Bool :=
  (match v.get? typeField with
    | some tag => tag.isStr typeName
    | none => false) ||
  Text.asciiLower v.typeName == Text.asciiLower typeName

def isA : Body :=
  .two fun name v typeName => (text name typeName).map fun t => .bool (isOfType v t)

end RowQuery.Builtin
