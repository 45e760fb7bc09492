import RowQuery.Builtin.Registry
import RowQuery.Filter.Expr
import RowQuery.Lambda.Function

/-!
# Which predicates may run at the store

The tokens of a predicate's body are looked at one by one, each with its neighbours. A predicate stays
local when it calls a function that the store lacks, or reads anything of the record but its properties.
-/

namespace RowQuery.PushDown

open Lambda

/-- Why a predicate stays local. -/
inductive Rejection where
  | localFunction (name : String)
  /-- A function that nobody knows. -/
  | unsupportedFunction (name : String)
  | bareParameter (name : String)
  /-- A property of a property or of a computed value. -/
  | nestedProperty (name : String)
  | reservedName (name : String)
  | paramCount (n : Nat)
  | unlexable (e : LexError)
  deriving DecidableEq, Repr, Inhabited

def Rejection.message : Rejection → String
  | localFunction name => "calls built-in function " ++ name ++ "()"
  | unsupportedFunction name =>
    "calls " ++ name ++ "(), which the filter grammar does not support"
  | bareParameter name => "uses parameter '" ++ name ++ "' without a property"
  | nestedProperty name => "reads nested property '" ++ name ++ "'"
  | reservedName name => "property '" ++ name ++ "' is a filter keyword"
  | paramCount n => "binds " ++ n.repr ++ " parameters"
  | unlexable e => "cannot be tokenized: " ++ e.message

/-- Whether a token names a parameter. -/
def isParam (f : Lambda) : Token → Bool
  | .ident name => f.binds name
  | _ => false

/-- Whether the tokens in front of a dot, the nearest first, end in a parameter that is no property. -/
def endsInParam (f : Lambda) : List Token → Bool
  | t :: before => isParam f t && before.head? != some .dot
  | [] => false

/-- What speaks against a token, given the tokens in front of it, the nearest first, and the one behind
it. -/
def objection? (f : Lambda) (before : List Token) (t : Token) (next : Option Token) :
    Option Rejection :=
  let afterDot := before.head? = some .dot
  match t with
  | .ident name =>
    if next = some .lparen ∧ Builtin.isLocal name then some (.localFunction name)
    else if next = some .lparen ∧ ¬ Builtin.isNative name then some (.unsupportedFunction name)
    else if afterDot then none
    else if f.binds name then if next = some .dot then none else some (.bareParameter name)
    else if Filter.isReserved name then some (.reservedName name)
    else none
  | .dot =>
    let property := Token.propertyName next
    if !endsInParam f before then some (.nestedProperty property)
    else if Filter.isReserved property then some (.reservedName property)
    else none
  | _ => none

/-- The first objection to a token, where `before` has been looked at, the nearest first. -/
def objectionFrom? (f : Lambda) (before : List Token) : List Token → Option Rejection
  | [] => none
  | t :: rest =>
    match objection? f before t rest.head? with
    | some r => some r
    | none => objectionFrom? f (t :: before) rest

/-- What keeps a predicate local, if anything does. -/
def rejection? (f : Lambda) : Option Rejection :=
  if f.params.length ≠ 1 then some (.paramCount f.params.length)
  else
    match tokenize f.bodySource.toList with
    | .error e => some (.unlexable e)
    | .ok tokens => objectionFrom? f [] tokens

def isEligible (f : Lambda) : Bool :=
  (rejection? f).isNone

end RowQuery.PushDown
