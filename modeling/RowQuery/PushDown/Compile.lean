import RowQuery.PushDown.Segment

/-!
# Filter text of a predicate

The pieces of a predicate are put one behind the other. On the way a stack remembers which of the open
parentheses belong to a call, because commas may stand nowhere else.
-/

namespace RowQuery.PushDown

/-- What a parenthesis was opened for. -/
inductive Opened where
  | call
  | group
  deriving DecidableEq, Repr, Inhabited

/-- Effect of a piece on the open parentheses, the innermost first, behind a piece with the role `before`
and in front of `rest`. -/
def track (opened : List Opened) (before : Option Role) (s : Segment) (rest : List Segment) :
    Except CompileError (List Opened) :=
  match s.role with
  | .opening =>
    let opened := (if before = some .function then .call else .group) :: opened
    if opened.length = s.depth then .ok opened else .error .unbalanced
  | .closing =>
    match opened with
    | _ :: opened => if opened.length = s.depth then .ok opened else .error .unbalanced
    | [] => .error .unbalanced
  | .argument => if opened.head? = some .call then .ok opened else .error .straySeparator
  | .function =>
    if rest.head?.map (·.role) = some .opening then .ok opened
    else .error (.unexpectedToken (.ident s.text))
  | _ => .ok opened

def emitFrom (opened : List Opened) (before : Option Role) :
    List Segment → Except CompileError String
  | [] => if opened.isEmpty then .ok "" else .error .unbalanced
  | s :: rest => do
    let opened ← track opened before s rest
    let tail ← emitFrom opened (some s.role) rest
    return s.text ++ tail

/-- The text of all pieces. -/
def emit (pieces : List Segment) : Except CompileError String :=
  emitFrom [] none pieces

/-- Filter text of a predicate. -/
def compile (f : Lambda) : Except CompileError String := do
  emit (← segments f)

end RowQuery.PushDown
