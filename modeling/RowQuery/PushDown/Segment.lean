import RowQuery.Builtin.Registry
import RowQuery.Filter.Token
import RowQuery.Lambda.Function

/-!
# Predicates as pieces of filter text

`segments` turns the tokens of a predicate's body one by one into pieces of filter text. The parameter
and the dot behind it are dropped, so that `row.age` leaves the property `age`. Each piece carries the
number of parentheses that are open behind it.
-/

namespace RowQuery.PushDown

open Lambda

/-- A predicate that has no filter text. -/
inductive CompileError where
  | lexical (e : LexError)
  | localFunction (name : String)
  | unsupportedFunction (name : String)
  | bareParameter (name : String)
  | nestedProperty (name : String)
  | reservedName (name : String)
  | unexpectedToken (t : Token)
  | straySeparator
  | unbalanced
  | empty
  deriving DecidableEq, Inhabited

def CompileError.message : CompileError → String
  | lexical e => e.message
  | localFunction name => "built-in function " ++ name ++ "() has no remote equivalent"
  | unsupportedFunction name => "function " ++ name ++ "() is not part of the filter grammar"
  | bareParameter name => "parameter '" ++ name ++ "' must be followed by a property"
  | nestedProperty name =>
    "nested or computed property access ('." ++ name ++ "') has no remote equivalent"
  | reservedName name => "'" ++ name ++ "' is a filter keyword and cannot name a property"
  | unexpectedToken t => "unexpected " ++ t.shown ++ " in predicate body"
  | straySeparator => "argument separator outside a function call"
  | unbalanced => "unbalanced parentheses"
  | empty => "empty predicate body"

/-- What a piece of filter text is. -/
inductive Role where
  | function
  | property
  /-- A name that is no parameter. -/
  | constant
  | comparison
  | logical
  | arithmetic
  | unary
  | argument
  | opening
  | closing
  | literal
  deriving DecidableEq, Repr, Inhabited

structure Segment where
  role : Role
  text : String
  /-- Number of parentheses open behind the piece. -/
  depth : Nat
  deriving DecidableEq, Repr, Inhabited

/-- Relation that a comparison becomes; the store has no strict ones. -/
def relation : Comparison → Filter.Relation
  | .equal | .strictEqual => .equal
  | .notEqual | .strictNotEqual => .notEqual
  | .less => .less
  | .greater => .greater
  | .lessEqual => .lessEqual
  | .greaterEqual => .greaterEqual

/-- An operator word or sign with a space at each side. -/
def spaced (text : String) : String :=
  " " ++ text ++ " "

/-- Whether an operand must follow a piece, so that a minus sign behind it negates. -/
def Role.awaitsOperand : Role → Bool
  | comparison | logical | arithmetic | unary | argument | opening => true
  | _ => false

/-- Piece for a token that stands for itself, behind a piece with the role `before`. -/
def piece? (before : Option Role) : Token → Option (Role × String)
  | .int n => some (.literal, Number.intText n)
  | .float x => some (.literal, Number.Layout.tagged.write x)
  | .str s => some (.literal, Filter.quote s)
  | .bool b => some (.literal, if b then "true" else "false")
  | .null => some (.literal, "null")
  | .comparison op => some (.comparison, spaced (relation op).word)
  | .connective op _ => some (.logical, spaced (Filter.connectiveWord op))
  | .minus =>
    if before.all Role.awaitsOperand then some (.unary, "-")
    else some (.arithmetic, spaced Arithmetic.subtract.symbol)
  | .plus => some (.arithmetic, spaced Arithmetic.add.symbol)
  | .star => some (.arithmetic, spaced Arithmetic.multiply.symbol)
  | .slash => some (.arithmetic, spaced Arithmetic.divide.symbol)
  | .percent => some (.arithmetic, spaced Arithmetic.modulo.symbol)
  | .bang => some (.unary, "not ")
  | .comma => some (.argument, ", ")
  | .ident _ | .returnWord | .arrow | .lparen | .rparen | .dot | .semicolon => none

/-- Property that follows a parameter, and the tokens behind it. -/
def paramProperty (name : String) : List Token → Except CompileError (String × List Token)
  | .dot :: .ident property :: rest =>
    match rest with
    | .dot :: rest => .error (.nestedProperty (Token.propertyName rest.head?))
    | rest =>
      if Filter.isReserved property then .error (.reservedName property)
      else .ok (property, rest)
  | _ => .error (.bareParameter name)

/-- Piece for a name that is no parameter, with `rest` behind it. -/
def namePiece (name : String) (rest : List Token) : Except CompileError (Role × String) :=
  if rest.head? = some .lparen then
    if Builtin.isLocal name then .error (.localFunction name)
    else if Builtin.isNative name then .ok (.function, name)
    else .error (.unsupportedFunction name)
  else if Filter.isReserved name then .error (.reservedName name)
  else .ok (.constant, name)

/-- Piece at the start of `t :: rest`, the number of open parentheses behind it, and the tokens behind
it. -/
def nextSegment (f : Lambda) (depth : Nat) (before : Option Role) (t : Token) (rest : List Token) :
    Except CompileError (Segment × List Token) :=
  match t with
  | .ident name => do
    if f.binds name then
      let (property, rest) ← paramProperty name rest
      return (⟨.property, property, depth⟩, rest)
    else
      let (role, text) ← namePiece name rest
      return (⟨role, text, depth⟩, rest)
  | .dot => .error (.nestedProperty (Token.propertyName rest.head?))
  | .lparen => .ok (⟨.opening, "(", depth + 1⟩, rest)
  | .rparen =>
    match depth with
    | 0 => .error .unbalanced
    | depth + 1 => .ok (⟨.closing, ")", depth⟩, rest)
  | t =>
    match piece? before t with
    | some (role, text) => .ok (⟨role, text, depth⟩, rest)
    | none => .error (.unexpectedToken t)

theorem paramProperty_length {name property : String} {tokens rest : List Token}
    (h : paramProperty name tokens = .ok (property, rest)) : rest.length ≤ tokens.length := by
  unfold paramProperty at h
  split at h
  · split at h
    · cases h
    · split at h
      · cases h
      · cases h
        simp only [List.length_cons]
        omega
  · cases h

theorem nextSegment_length {f : Lambda} {depth : Nat} {before : Option Role} {t : Token}
    {tokens rest : List Token} {s : Segment}
    (h : nextSegment f depth before t tokens = .ok (s, rest)) : rest.length ≤ tokens.length := by
  unfold nextSegment at h
  split at h
  · rename_i name
    split at h
    · cases hp : paramProperty name tokens with
      | error e => rw [hp] at h; cases h
      | ok r =>
        rw [hp] at h
        cases h
        exact paramProperty_length hp
    · cases hn : namePiece name tokens with
      | error e => rw [hn] at h; cases h
      | ok r => rw [hn] at h; cases h; exact Nat.le_refl _
  · cases h
  · cases h; exact Nat.le_refl _
  · split at h
    · cases h
    · cases h; exact Nat.le_refl _
  · split at h
    · cases h; exact Nat.le_refl _
    · cases h

/-- Pieces for all tokens; every parenthesis has to be closed. -/
def segmentsFrom (f : Lambda) (depth : Nat) (before : Option Role) :
    List Token → Except CompileError (List Segment)
  | [] => if depth = 0 then .ok [] else .error .unbalanced
  | t :: rest =>
    match _h : nextSegment f depth before t rest with
    | .error e => .error e
    | .ok (s, rest) => (segmentsFrom f s.depth (some s.role) rest).map (s :: ·)
termination_by tokens => tokens.length
decreasing_by
  have := nextSegment_length _h
  simp only [List.length_cons]
  omega

/-- Tokens of a body without a leading `return` and semicolons at the end. -/
def bodyTokens (tokens : List Token) : List Token :=
  let tokens :=
    match tokens with
    | .returnWord :: rest => rest
    | tokens => tokens
  (tokens.reverse.dropWhile (· = .semicolon)).reverse

/-- Pieces of a predicate's filter text. -/
def segments (f : Lambda) : Except CompileError (List Segment) :=
  match tokenize f.bodySource.toList with
  | .error e => .error (.lexical e)
  | .ok tokens =>
    match bodyTokens tokens with
    | [] => .error .empty
    | tokens => segmentsFrom f 0 none tokens

end RowQuery.PushDown
