import RowQuery.Builtin.Conversion
import RowQuery.Builtin.Numeric
import RowQuery.Builtin.Textual
import RowQuery.Pattern.Parser

/-!
# Functions by name

A function is either local or native to the store. The store's filters know the native ones only, so
that a predicate that calls a local function cannot be pushed down; expressions may call both.
-/

namespace RowQuery.Builtin

/-- Whether a pattern matches some part of a string. -/
def matchesPattern : Body :=
  .two fun name v pattern => do
    let s ← text name v
    let p ← text name pattern
    match Pattern.parse p.toList with
    | .ok e => return .bool (e.occursIn s.toList)
    | .error e => .error (.invalidRegex e.message)

/-- Version of the list of local functions. -/
def listVersion : Nat := 1

/-- Functions that run only locally. -/
def localFunctions : List (String × Body) := [
  ("abs", abs), ("ceil", rounded Number.ceil), ("floor", rounded Number.floor), ("round", round),
  ("sqrt", sqrt), ("pow", pow), ("min", extreme .lt), ("max", extreme .gt),
  ("len", length), ("lower", lower), ("upper", upper), ("trim", trim), ("substr", substr),
  ("contains", contains), ("starts_with", startsWith), ("ends_with", endsWith),
  ("concat", concat), ("matches", matchesPattern),
  ("to_int", toInt), ("to_float", toFloat), ("to_string", toText), ("coalesce", coalesce),
  ("is_array", test isArray), ("is_bool", test isBool), ("is_double", test isFloat),
  ("is_float", test isFloat), ("is_int", test isInteger), ("is_integer", test isInteger),
  ("is_long", test isInteger), ("is_null", test isNull), ("is_numeric", test isNumeric),
  ("is_object", test isObject), ("is_real", test isFloat), ("is_scalar", test isScalar),
  ("is_string", test isString), ("is_a", isA)]

/-- Functions that the store's filters know as well. -/
def nativeFunctions : List (String × Body) := [
  ("startswith", startsWith), ("endswith", endsWith), ("substringof", substringOf),
  ("tolower", lower), ("toupper", upper), ("length", length)]

/-- Whether a name is that of a local function. -/
def isLocal (name : String) : Bool :=
  localFunctions.any fun f => f.1 = name

/-- Whether a name is that of a function native to the store. -/
def isNative (name : String) : Bool :=
  nativeFunctions.any fun f => f.1 = name

def find? (name : String) : Option Body :=
  ((localFunctions ++ nativeFunctions).find? fun f => f.1 = name).map (·.2)

/-- Calls a function by its name. -/
def call (name : String) (args : List Value) : Result :=
  match find? name with
  | some body => body.call name args
  | none => .error (.unknownFunction name)

end RowQuery.Builtin
