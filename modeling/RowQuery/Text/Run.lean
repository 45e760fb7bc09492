/-!
# Tables of runs

A table such as `Cc32ZsPo3` gives every code point from 0 on a code: 32 times `Cc`, once `Zs`, three
times `Po`. A code is a capital letter and small letters behind it; a length of one is not written.
-/

namespace RowQuery.Text

/-- A run of code points with one code. -/
structure Run where
  code : String
  length : Nat

/-- Adds one character of a table to the runs read so far, the last one first; a length that is not
written counts as 0 here. -/
def Run.step (runs : List Run) (c : Char) : List Run :=
  match runs with
  | run :: earlier =>
    if c.isUpper then ⟨String.singleton c, 0⟩ :: runs
    else if c.isDigit then
      { run with length := 10 * run.length + (c.toNat - '0'.toNat) } :: earlier
    else { run with code := run.code.push c } :: earlier
  | [] => [⟨String.singleton c, 0⟩]

/-- The runs of a table. -/
def readRuns (text : String) : List Run :=
  (text.toList.foldl Run.step []).reverse.map fun run => { run with length := max run.length 1 }

/-- What a table of runs says of the code point `n` places behind its start. -/
def entryAt? {α : Type} : List (α × Nat) → Nat → Option α
  | [], _ => none
  | (entry, length) :: runs, n => if n < length then some entry else entryAt? runs (n - length)

end RowQuery.Text
