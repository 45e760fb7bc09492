/-!
# Depth of patterns

Groups, repetitions, bracket classes and lists of several parts stand one level above what they hold;
characters, named sets and conditions hold nothing. A pattern may have no more than `depthLimit`
levels.
-/

namespace RowQuery.Pattern

/-- A part of a pattern and the number of levels below it. -/
structure Nested (α : Type) where
  part : α
  depth : Nat := 0

/-- Depth of a list of parts with the given depths; a single part needs no list around it. -/
def listDepth : List Nat → Nat
  | [] => 0
  | [depth] => depth
  | depths => depths.foldl max 0 + 1

def depthLimit : Nat := 250

end RowQuery.Pattern
