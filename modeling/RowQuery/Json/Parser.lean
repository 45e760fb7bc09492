import RowQuery.Json.Token

/-!
# Reading JSON

A text is cut into tokens, which a stack of open brackets puts together. At most `maxDepth` brackets may
be open at a time; of two members with one name the later counts.
-/

namespace RowQuery.Json

/-- Greatest number of open brackets. -/
def maxDepth : Nat := 127

/-- Tokens of a text, `fuel` at most. -/
def tokensFrom : (fuel : Nat) → List Char → Option (List Token)
  | 0, _ => none
  | fuel + 1, cs =>
    match cs.dropWhile isBlank with
    | [] => some []
    | cs => do
      let (t, rest) ← scan? cs
      return t :: (← tokensFrom fuel rest)

/-- Tokens of a text, each of which takes at least one character. -/
def tokens? (cs : List Char) : Option (List Token) :=
  tokensFrom (cs.length + 1) cs

/-- A bracket around the value being read, with what was read behind it. -/
inductive Open where
  /-- The items so far, the last one first. -/
  | array (items : List Json)
  /-- The members so far, and the name of the next. -/
  | object (members : List (String × Json)) (name : String)

/-- What may come next. -/
inductive Mode where
  | value
  /-- A value, or the end of an empty array. -/
  | firstItem
  /-- A name, or the end of an empty object. -/
  | firstName
  | name (members : List (String × Json))
  | colon (members : List (String × Json)) (name : String)
  /-- A comma or a closing bracket. -/
  | separator
  | done (j : Json)

structure State where
  stack : List Open
  mode : Mode

/-- Puts a complete value into the bracket around it. -/
def State.complete (stack : List Open) (j : Json) : State :=
  match stack with
  | [] => ⟨[], .done j⟩
  | .array items :: stack => ⟨.array (j :: items) :: stack, .separator⟩
  | .object members name :: stack =>
    ⟨.object (Fields.insert members name j) name :: stack, .separator⟩

/-- Reads the first token of a value. -/
def stepValue (stack : List Open) (t : Token) : Option State :=
  match t with
  | .scalar j => some (.complete stack j)
  | .str s => some (.complete stack (.str s))
  | .openArray =>
    if stack.length < maxDepth then some ⟨.array [] :: stack, .firstItem⟩ else none
  | .openObject => if stack.length < maxDepth then some ⟨stack, .firstName⟩ else none
  | _ => none

def step (s : State) (t : Token) : Option State :=
  match s.mode, s.stack, t with
  | .value, stack, t => stepValue stack t
  | .firstItem, .array _ :: stack, .closeArray => some (.complete stack (.array []))
  | .firstItem, stack, t => stepValue stack t
  | .firstName, stack, .closeObject => some (.complete stack (.object []))
  | .firstName, stack, .str name => some ⟨stack, .colon [] name⟩
  | .name members, stack, .str name => some ⟨stack, .colon members name⟩
  | .colon members name, stack, .colon => some ⟨.object members name :: stack, .value⟩
  | .separator, .array items :: stack, .comma => some ⟨.array items :: stack, .value⟩
  | .separator, .array items :: stack, .closeArray =>
    some (.complete stack (.array items.reverse))
  | .separator, .object members _ :: stack, .comma => some ⟨stack, .name members⟩
  | .separator, .object members _ :: stack, .closeObject =>
    some (.complete stack (.object members))
  | _, _, _ => none

def finish? (s : State) : Option Json :=
  match s.mode with
  | .done j => some j
  | _ => none

/-- The value of a JSON text. -/
def parse? (text : String) : Option Json := do
  finish? (← (← tokens? text.toList).foldlM step ⟨[], .value⟩)

end RowQuery.Json
