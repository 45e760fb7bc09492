import RowQuery.Repertoire.Basic

/-!
# Sets of characters
-/

namespace RowQuery.Pattern

inductive CharSet where
  | single (c : Char)
  /-- Characters from the first to the last. -/
  | range (first last : Char)
  /-- Characters with a property. -/
  | having (p : Char → Bool)
  | union (a b : CharSet)
  | inter (a b : CharSet)
  | compl (a : CharSet)
  /-- The members and all their case variants. -/
  | folded (a : CharSet)
  /-- The members and the other case of the ASCII letters among them. -/
  | foldedAscii (a : CharSet)

namespace CharSet

def empty : CharSet := .having fun _ => false

/-- All characters. -/
def any : CharSet := .range '\x00' (Char.ofNat 0x10FFFF)

def diff (a b : CharSet) : CharSet := .inter a (.compl b)

def symmDiff (a b : CharSet) : CharSet := .union (a.diff b) (b.diff a)

/-- The other case of an ASCII letter; other characters stay. -/
def otherCase (c : Char) : Char :=
  if c.isUpper then c.toLower else c.toUpper

def contains : CharSet → Char → Bool
  | single d, c => c = d
  | range first last, c => first ≤ c && c ≤ last
  | having p, c => p c
  | union a b, c => a.contains c || b.contains c
  | inter a b, c => a.contains c && b.contains c
  | compl a, c => !a.contains c
  | folded a, c => a.contains c || (Repertoire.variants c).any a.contains
  | foldedAscii a, c => a.contains c || a.contains (otherCase c)

/-- Union of a list of sets. -/
def unionAll : List CharSet → CharSet
  | [] => empty
  | set :: sets => sets.foldl union set

/-- Whether a set has no member among the characters from 80 to FF, which a single byte could stand
for. -/
def isAscii (a : CharSet) : Bool :=
  (List.range 128).all fun k => !a.contains (Char.ofNat (128 + k))

/-! ## Named sets -/

def digit : CharSet := .having fun c => Repertoire.category c = .Nd

def space : CharSet := .having Text.isBlank

def word : CharSet := .having Repertoire.isWord

def isAsciiWord (c : Char) : Bool :=
  c.isAlphanum || c = '_'

def asciiDigit : CharSet := .range '0' '9'

def asciiSpace : CharSet := .union (.range '\t' '\r') (.single ' ')

def asciiWord : CharSet := .having isAsciiWord

/-- A set of ASCII characters by its name between `[:` and `:]`. -/
def posix? : String → Option CharSet
  | "alnum" => some (.having Char.isAlphanum)
  | "alpha" => some (.having Char.isAlpha)
  | "ascii" => some (.range '\x00' '\x7f')
  | "blank" => some (.union (.single '\t') (.single ' '))
  | "cntrl" => some (.union (.range '\x00' '\x1f') (.single '\x7f'))
  | "digit" => some asciiDigit
  | "graph" => some (.range '!' '~')
  | "lower" => some (.range 'a' 'z')
  | "print" => some (.range ' ' '~')
  | "punct" => some (.inter (.range '!' '~') (.compl (.having Char.isAlphanum)))
  | "space" => some asciiSpace
  | "upper" => some (.range 'A' 'Z')
  | "word" => some asciiWord
  | "xdigit" => some (.having fun c => (Text.hexDigit? c).isSome)
  | _ => none

end CharSet

end RowQuery.Pattern
