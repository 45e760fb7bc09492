import RowQuery.Repertoire.AgeRuns
import RowQuery.Text.Run

/-!
# Ages of characters

The age of a character is the first edition of the standard that has it.
-/

namespace RowQuery.Repertoire

/-- An edition of the standard, by the numbers before and behind its point. -/
structure Edition where
  major : Nat
  minor : Nat
  deriving DecidableEq, Repr, Inhabited

namespace Edition

/-- All editions up to 16.0 that assigned characters. -/
def all : List Edition := [
  ⟨1, 1⟩, ⟨2, 0⟩, ⟨2, 1⟩, ⟨3, 0⟩, ⟨3, 1⟩, ⟨3, 2⟩, ⟨4, 0⟩, ⟨4, 1⟩, ⟨5, 0⟩, ⟨5, 1⟩, ⟨5, 2⟩, ⟨6, 0⟩,
  ⟨6, 1⟩, ⟨6, 2⟩, ⟨6, 3⟩, ⟨7, 0⟩, ⟨8, 0⟩, ⟨9, 0⟩, ⟨10, 0⟩, ⟨11, 0⟩, ⟨12, 0⟩, ⟨12, 1⟩, ⟨13, 0⟩,
  ⟨14, 0⟩, ⟨15, 0⟩, ⟨15, 1⟩, ⟨16, 0⟩]

/-- Names of an edition, separated by `=`, such as `3.2=V3_2`. -/
def names (e : Edition) : String :=
  toString e.major ++ "." ++ toString e.minor ++ "=V" ++ toString e.major ++ "_" ++ toString e.minor

def notAfter (a b : Edition) : Bool :=
  a.major < b.major || (a.major = b.major && a.minor ≤ b.minor)

/-- Edition that a code of `ageRuns` stands for. -/
def ofCode? (code : String) : Option Edition :=
  match code.toList with
  | ['Z'] => none
  | [major] => some ⟨major.toNat - 'A'.toNat + 1, 0⟩
  | [major, minor] => some ⟨major.toNat - 'A'.toNat + 1, minor.toNat - 'a'.toNat + 1⟩
  | _ => none

end Edition

/-- Age and length of each run of code points. -/
def ageTable : List (Option Edition × Nat) :=
  (Text.readRuns ageRuns).map fun run => (Edition.ofCode? run.code, run.length)

/-- Age of a character; none for what edition 16.0 leaves unassigned. -/
def age? (c : Char) : Option Edition :=
  (Text.entryAt? ageTable c.toNat).join

/-- Whether an edition has a character. -/
def presentIn (e : Edition) (c : Char) : Bool :=
  match age? c with
  | some a => a.notAfter e
  | none => false

end RowQuery.Repertoire
