import RowQuery.Toml.Scalar
import RowQuery.Toml.Table
import RowQuery.Toml.Text

/-!
# Reading settings files

A text is a sequence of lines: headers between brackets, and names with their values. Arrays and tables
that are values may nest `maxDepth` deep. The readers take fuel; the length of the text is enough, since
every step takes a character.
-/

namespace RowQuery.Toml

/-- Greatest depth of values in values. -/
def maxDepth : Nat := 80

/-! ## Names -/

def isBareChar (c : Char) : Bool :=
  c.isAlphanum || c = '_' || c = '-'

/-- One part of a dotted name: bare, or quoted. -/
def simpleKey (cs : List Char) : Option (String × List Char) :=
  match shortString? cs with
  | some quoted => quoted.map fun (name, rest) => (String.ofList name, rest)
  | none =>
    let name := cs.takeWhile isBareChar
    if name.isEmpty then none else some (String.ofList name, cs.dropWhile isBareChar)

/-- A dotted name, and the text behind it and blanks. -/
def dottedKey : (fuel : Nat) → List Char → Option (List String × List Char)
  | 0, _ => none
  | fuel + 1, cs => do
    let (name, rest) ← simpleKey cs
    match skipBlanks rest with
    | '.' :: rest => do
      let (names, rest) ← dottedKey fuel (skipBlanks rest)
      return (name :: names, rest)
    | rest => return ([name], rest)

/-- A dotted name and an equals sign, and the text behind them and blanks. -/
def assignedKey (fuel : Nat) (cs : List Char) : Option (List String × List Char) := do
  let (names, rest) ← dottedKey fuel cs
  return (names, skipBlanks (← behind? '=' rest))

/-! ## Values -/

mutual

/-- A value at the start of a text, `depth` brackets deep. -/
def value : (fuel depth : Nat) → List Char → Option (Toml × List Char)
  | 0, _, _ => none
  | fuel + 1, depth, cs =>
    match string? cs with
    | some quoted => quoted.map fun (s, rest) => (.str (String.ofList s), rest)
    | none =>
      match cs with
      | '[' :: rest => if depth < maxDepth then items fuel (depth + 1) [] rest else none
      | '\x7b' :: rest => if depth < maxDepth then members fuel (depth + 1) [] rest else none
      | cs =>
        let (text, rest) := scalarText cs
        (scalar? text).map fun v => (v, rest)

/-- Items of an array up to its closing bracket, behind the items `seen`, the last one first. -/
def items : (fuel depth : Nat) → (seen : List Toml) → List Char → Option (Toml × List Char)
  | 0, _, _, _ => none
  | fuel + 1, depth, seen, cs => do
    match ← skipGap false cs with
    | ']' :: rest => return (.array seen.reverse, rest)
    | cs => do
      let (v, rest) ← value fuel depth cs
      match ← skipGap false rest with
      | ',' :: rest => items fuel depth (v :: seen) rest
      | ']' :: rest => return (.array (v :: seen).reverse, rest)
      | _ => none

/-- Members of a table that is a value, up to its closing brace. -/
def members : (fuel depth : Nat) → (seen : Members) → List Char → Option (Toml × List Char)
  | 0, _, _, _ => none
  | fuel + 1, depth, seen, cs => do
    match ← skipGap false cs with
    | '\x7d' :: rest => return (.table (finished seen), rest)
    | cs => do
      let (names, rest) ← assignedKey fuel cs
      let (v, rest) ← value fuel depth rest
      let seen ← seen.assign v names
      match ← skipGap false rest with
      | ',' :: rest => members fuel depth seen rest
      | '\x7d' :: rest => return (.table (finished seen), rest)
      | _ => none

end

/-! ## Lines -/

/-- State of a reader of lines: the table that names are put into, and everything so far. -/
structure State where
  path : List String
  root : Members

/-- Opens what a header names: a table, or one more table of an array. -/
def State.header (s : State) (isItem : Bool) (names : List String) : Option State := do
  let last ← names.getLast?
  let change := if isItem then Members.openItem last else Members.openTable last
  return ⟨names, ← s.root.descend change names.dropLast⟩

def State.assign (s : State) (names : List String) (v : Toml) : Option State := do
  return ⟨s.path, ← s.root.descend (Members.assign v names) s.path⟩

/-- A header behind its opening brackets, up to the end of its line. -/
def headerLine (fuel : Nat) (s : State) (isItem : Bool) (cs : List Char) :
    Option (State × List Char) := do
  let (names, rest) ← dottedKey fuel (skipBlanks cs)
  let rest ← behind? ']' rest
  let rest ← if isItem then behind? ']' rest else some rest
  return (← s.header isItem names, ← skipLineEnd false rest)

/-- A line that is not empty. -/
def line (fuel : Nat) (s : State) : List Char → Option (State × List Char)
  | '[' :: '[' :: rest => headerLine fuel s true rest
  | '[' :: rest => headerLine fuel s false rest
  | cs => do
    let (names, rest) ← assignedKey fuel cs
    let (v, rest) ← value fuel 0 rest
    return (← s.assign names v, ← skipLineEnd false rest)

/-- All lines of a text. -/
def lines : (fuel : Nat) → State → List Char → Option State
  | 0, _, _ => none
  | fuel + 1, s, cs => do
    match ← skipGap false cs with
    | [] => return s
    | cs => do
      let (s, rest) ← line (cs.length + 1) s cs
      lines fuel s rest

/-- A mark that some editors put in front of a text. -/
def skipMark : List Char → List Char
  | '\ufeff' :: rest => rest
  | cs => cs

/-- Top-level members of a text. -/
def parse? (text : String) : Option (List (String × Toml)) := do
  let cs := skipMark text.toList
  return finished (← lines (cs.length + 1) ⟨[], []⟩ cs).root

end RowQuery.Toml
