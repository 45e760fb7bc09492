import RowQuery.Repertoire.ScriptRuns
import RowQuery.Text.Ranges
import RowQuery.Text.Run

/-!
# Scripts

A character has one script, or none; marks and digits may be used with several scripts.
-/

namespace RowQuery.Repertoire

/-- Script code and length of each run of code points. -/
def scriptTable : List (String × Nat) :=
  (Text.readRuns scriptRuns).map fun run => (run.code, run.length)

/-- Code of the script of a character. -/
def script (c : Char) : String :=
  (Text.entryAt? scriptTable c.toNat).getD "Zzzz"

/-- Codes of scripts, and the characters that just these scripts use. -/
def sharedTable : List (List String × Text.Ranges) :=
  sharedCharacters.map fun entry => (entry.1.splitOn " ", .ofText entry.2)

/-- Whether a script uses a character: the script of the character does, unless it is shared. -/
def usedIn (code : String) (c : Char) : Bool :=
  match sharedTable.find? (·.2.contains c.toNat) with
  | some entry => entry.1.contains code
  | none => script c = code

/-- Names of each script, separated by `=`, and its code. -/
def scripts : List (String × String) :=
  (scriptNames.splitOn " ").map fun names =>
    (names, String.ofList (names.toList.takeWhile (· ≠ '=')))

end RowQuery.Repertoire
