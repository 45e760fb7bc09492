import RowQuery.Pattern.Atom
import RowQuery.Pattern.Depth

/-!
# Classes in brackets

A class lists characters, ranges, named sets and further classes; `&&`, `--` and `~~` combine such lists
from the left. What is open stands on a stack, the innermost class first.
-/

namespace RowQuery.Pattern

inductive SetOp where
  | inter
  | diff
  | symmDiff

/-- Combines two sets; case variants are added to both before. -/
def SetOp.apply (flags : Flags) (op : SetOp) (a b : CharSet) : CharSet :=
  let a := flags.foldSet a
  let b := flags.foldSet b
  match op with
  | inter => .inter a b
  | diff => a.diff b
  | symmDiff => a.symmDiff b

/-- An open class: the items of the list being read, the last one first, and the set and the operator
in front of that list. -/
structure OpenClass where
  negated : Bool
  items : List (Nested CharSet) := []
  pending : Option (Nested CharSet × SetOp) := none

namespace OpenClass

def add (c : OpenClass) (s : Nested CharSet) : OpenClass :=
  { c with items := s :: c.items }

/-- Adds a set that holds no further classes. -/
def addSet (c : OpenClass) (s : CharSet) : OpenClass :=
  c.add ⟨s, 0⟩

/-- The set read so far. -/
def current (flags : Flags) (c : OpenClass) : Nested CharSet :=
  let items := CharSet.unionAll (c.items.reverse.map (·.part))
  let depth := listDepth (c.items.map (·.depth))
  match c.pending with
  | none => ⟨items, depth⟩
  | some (left, op) => ⟨op.apply flags left.part items, max left.depth depth + 1⟩

/-- Starts the next list, behind an operator. -/
def operator (flags : Flags) (c : OpenClass) (op : SetOp) : OpenClass :=
  { c with items := [], pending := some (c.current flags, op) }

/-- The whole class. -/
def complete (flags : Flags) (c : OpenClass) : Except PatternError (Nested CharSet) := do
  let ⟨items, depth⟩ := c.current flags
  let s := flags.foldSet items
  return ⟨← flags.checkSet (if c.negated then .compl s else s), depth + 1⟩

end OpenClass

/-- Hyphens at the start of a class stand for themselves. -/
def leadingHyphens (flags : Flags) : (fuel : Nat) → OpenClass → List Char → OpenClass × List Char
  | 0, open_, cs => (open_, cs)
  | fuel + 1, open_, cs =>
    match cs with
    | '-' :: _ => leadingHyphens flags fuel (open_.addSet (.single '-')) (flags.next cs)
    | _ => (open_, cs)

/-- Reads an opening bracket, a negation and the characters that stand for themselves only there. -/
def openClass (flags : Flags) (cs : List Char) : Except PatternError (OpenClass × List Char) :=
  let cs := flags.next cs
  let (negated, cs) :=
    match cs with
    | '^' :: _ => (true, flags.next cs)
    | cs => (false, cs)
  let (open_, cs) := leadingHyphens flags cs.length ⟨negated, [], none⟩ cs
  let (open_, cs) :=
    match open_.items, cs with
    | [], ']' :: _ => (open_.addSet (.single ']'), flags.next cs)
    | _, cs => (open_, cs)
  if cs.isEmpty then .error .unclosedClass else .ok (open_, cs)

/-- A named ASCII class such as `[:alpha:]`, where one stands. -/
def posixClass? (flags : Flags) (cs : List Char) : Option (CharSet × List Char) :=
  match cs with
  | '[' :: ':' :: rest =>
    let (negated, rest) :=
      match rest with
      | '^' :: rest => (true, rest)
      | rest => (false, rest)
    let name := rest.takeWhile (· ≠ ':')
    match rest.dropWhile (· ≠ ':') with
    | ':' :: ']' :: behind =>
      (CharSet.posix? (String.ofList name)).map fun s =>
        let s := flags.foldSet s
        (if negated then .compl s else s, behind)
    | _ => none
  | _ => none

/-- The character of an atom at one end of a range. -/
def Atom.rangeEnd (flags : Flags) : Atom → Except PatternError Char
  | .char c byte =>
    if flags.unicode || c.toNat < 128 then .ok c
    else .error (if byte then .notText else .invalidClassItem)
  | _ => .error .invalidRange

/-- The set of an atom in a class. -/
def Atom.classItem (flags : Flags) : Atom → Except PatternError CharSet
  | .char c byte => ((Atom.char c byte).rangeEnd flags).map .single
  | .set s => .ok s
  | .look _ => .error .invalidClassItem

/-- A character, a range or a named set. -/
def classItem (flags : Flags) (cs : List Char) : Except PatternError (CharSet × List Char) := do
  let (first, cs) ← atom flags cs
  let cs := flags.skip cs
  let after := (flags.next cs).head?
  if cs.isEmpty then .error .unclosedClass
  else if cs.head? ≠ some '-' ∨ after = some ']' ∨ after = some '-' then
    return (← first.classItem flags, cs)
  else
    let cs := flags.next cs
    if cs.isEmpty then .error .unclosedClass
    else
      let (last, cs) ← atom flags cs
      let first ← first.rangeEnd flags
      let last ← last.rangeEnd flags
      if first ≤ last then return (.range first last, cs) else .error .invalidRange

/-- Reads the rest of the class `inner`, which stands in the classes `outer`. Every step takes a
character. -/
def classFrom (flags : Flags) : (fuel : Nat) → (inner : OpenClass) → (outer : List OpenClass) →
    List Char → Except PatternError (Nested CharSet × List Char)
  | 0, _, _, _ => .error .unclosedClass
  | fuel + 1, inner, outer, cs =>
    let cs := flags.skip cs
    match cs with
    | [] => .error .unclosedClass
    | '[' :: _ =>
      match posixClass? flags cs with
      | some (s, rest) => classFrom flags fuel (inner.addSet s) outer rest
      | none => do
        let (new, rest) ← openClass flags cs
        classFrom flags fuel new (inner :: outer) rest
    | ']' :: rest => do
      let s ← inner.complete flags
      match outer with
      | [] => return (s, rest)
      | parent :: outer => classFrom flags fuel (parent.add s) outer rest
    | '&' :: '&' :: rest => classFrom flags fuel (inner.operator flags .inter) outer rest
    | '-' :: '-' :: rest => classFrom flags fuel (inner.operator flags .diff) outer rest
    | '~' :: '~' :: rest => classFrom flags fuel (inner.operator flags .symmDiff) outer rest
    | cs => do
      let (s, rest) ← classItem flags cs
      classFrom flags fuel (inner.addSet s) outer rest

/-- A class, from its opening bracket on. -/
def bracketClass (flags : Flags) (cs : List Char) :
    Except PatternError (Nested CharSet × List Char) := do
  let (open_, rest) ← openClass flags cs
  classFrom flags (rest.length + 1) open_ [] rest

end RowQuery.Pattern
