import RowQuery.Text.CaseRuns
import RowQuery.Text.Property

/-!
# Case mapping and case folding

`lowercase` and `uppercase` map whole texts. A capital sigma becomes a final sigma at the end of a
word: behind a cased character and before none, where case-ignorable characters are looked through.
`fold` sends all case variants of a character to one of them, and `variants` lists them.
-/

namespace RowQuery.Text

/-- Adds `delta` to every `step`-th code point from `first` to `last`. -/
structure Shift where
  first : Nat
  last : Nat
  step : Nat
  delta : Int
  deriving Repr, Inhabited

namespace Shift

def covers (s : Shift) (n : Nat) : Bool :=
  s.first ≤ n && n ≤ s.last && (n - s.first) % s.step = 0

/-- Reads one entry such as `100..12E/2+1`. -/
def ofText (entry : String) : Shift :=
  let cs := entry.toList
  let isSign := fun c => c = '+' || c = '-'
  let span := cs.takeWhile (!isSign ·)
  let amount : Int := hexValue (cs.dropWhile (!isSign ·))
  let delta := if entry.contains '-' then -amount else amount
  let step := if span.contains '/' then hexValue (span.dropWhile (· ≠ '/')) else 1
  let ends := span.takeWhile (· ≠ '/')
  let first := hexValue (ends.takeWhile (· ≠ '.'))
  let last := if ends.contains '.' then hexValue (ends.dropWhile (· ≠ '.')) else first
  ⟨first, last, step, delta⟩

def table (text : String) : List Shift :=
  (text.splitOn " ").map ofText

/-- Code point that the shifts of a table send `n` to; `n` itself where none covers it. -/
def apply (shifts : List Shift) (n : Nat) : Nat :=
  match shifts.find? (·.covers n) with
  | some s => (n + s.delta).toNat
  | none => n

end Shift

/-- Reads entries such as `DF=53.53`. -/
def expansions (text : String) : List (Nat × List Char) :=
  (text.splitOn " ").map fun entry =>
    let cs := entry.toList
    let codes := (String.ofList (cs.dropWhile (· ≠ '=') |>.drop 1)).splitOn "."
    (hexValue (cs.takeWhile (· ≠ '=')), codes.map fun code => Char.ofNat (hexValue code.toList))

def lowerTable : List Shift := Shift.table lowerShifts
def upperTable : List Shift := Shift.table upperShifts
def foldTable : List Shift := Shift.table foldShifts
def lowerLong : List (Nat × List Char) := expansions lowerExpansions
def upperLong : List (Nat × List Char) := expansions upperExpansions

/-- Lower case of a character on its own. -/
def lowerChars (c : Char) : List Char :=
  if c.toNat < 128 then [c.toLower]
  else
    match lowerLong.lookup c.toNat with
    | some cs => cs
    | none => [Char.ofNat (Shift.apply lowerTable c.toNat)]

/-- Upper case of a character. -/
def upperChars (c : Char) : List Char :=
  if c.toNat < 128 then [c.toUpper]
  else
    match upperLong.lookup c.toNat with
    | some cs => cs
    | none => [Char.ofNat (Shift.apply upperTable c.toNat)]

/-- Whether the first character that is not case-ignorable is cased. -/
def startsCased (cs : List Char) : Bool :=
  match cs.dropWhile isCaseIgnorable with
  | c :: _ => isCased c
  | [] => false

/-- Lower case of `rest`, where `before` holds the characters in front of it, the last one first. -/
def lowerFrom (before : List Char) : List Char → List Char
  | [] => []
  | c :: rest =>
    let low :=
      if c = 'Σ' then if startsCased before && !startsCased rest then ['ς'] else ['σ']
      else lowerChars c
    low ++ lowerFrom (c :: before) rest

def lowercase (s : String) : String :=
  String.ofList (lowerFrom [] s.toList)

def uppercase (s : String) : String :=
  String.ofList (s.toList.flatMap upperChars)

/-- The character that stands for all case variants of `c`. -/
def fold (c : Char) : Char :=
  if c.toNat < 128 then c.toLower else Char.ofNat (Shift.apply foldTable c.toNat)

/-- All characters with the same `fold` as `c`. -/
def variants (c : Char) : List Char :=
  let target := fold c
  target :: foldTable.filterMap fun s =>
    let source := ((target.toNat : Int) - s.delta).toNat
    if s.covers source && Shift.apply [s] source = target.toNat then some (Char.ofNat source) else none

/-- Lower case of ASCII letters only. -/
def asciiLower (s : String) : String :=
  s.map Char.toLower

end RowQuery.Text
