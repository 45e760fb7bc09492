import RowQuery.Eval.Arithmetic
import RowQuery.Value.Order

/-!
# Operators on values
-/

namespace RowQuery

/-- Whether two values stand in a relation. Values of kinds that do not compare are neither less nor
greater nor equal in order. -/
def Comparison.holds (op : Comparison) (a b : Value) : Bool :=
  match op with
  | equal => a.looseEq b
  | notEqual => !a.looseEq b
  | strictEqual => a.strictEq b
  | strictNotEqual => !a.strictEq b
  | less => a.compare? b = some .lt
  | lessEqual => a.compare? b = some .lt || a.compare? b = some .eq
  | greater => a.compare? b = some .gt
  | greaterEqual => a.compare? b = some .gt || a.compare? b = some .eq

/-- Applies a binary operator to two values. Two strings are added by putting one behind the other. -/
def BinaryOp.apply (op : BinaryOp) (a b : Value) : Eval Value :=
  match op with
  | comparison op => .ok (.bool (op.holds a b))
  | arithmetic op =>
    match op, a, b with
    | .add, .str s, .str t => .ok (.str (s ++ t))
    | op, a, b => op.apply a b
  | connective .and => .ok (.bool (a.truthy && b.truthy))
  | connective .or => .ok (.bool (a.truthy || b.truthy))

/-- The number with the opposite sign; an integer whose opposite does not fit becomes a float. -/
def Value.negate : Value → Eval Value
  | .int n =>
    match Number.int64OfInt? (-n.toInt) with
    | some m => .ok (.int m)
    | none => .ok (.float (Number.neg (Number.ofInt64 n)))
  | .float x => .ok (.float (Number.neg x))
  | v => Run.fail (.typeFault (.negate v.typeName))

def UnaryOp.apply (op : UnaryOp) (v : Value) : Eval Value :=
  match op with
  | not => .ok (.bool (!v.truthy))
  | negate => v.negate

/-- Value of a property; objects without it and null answer null. -/
def Value.property (v : Value) (name : String) : Eval Value :=
  match v with
  | .object fields => .ok ((Fields.get? fields name).getD .null)
  | .null => .ok .null
  | v => Run.fail (.typeFault (.readProperty name v.typeName))

end RowQuery
