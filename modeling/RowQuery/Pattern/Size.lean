import RowQuery.Number.Power
import RowQuery.Pattern.Expr
import RowQuery.Repertoire.Edge

/-!
# Size of patterns

The size of a pattern is the memory, in bytes, of an automaton for it that reads the bytes of UTF-8 from
the last to the first. Counted repetitions stand in the automaton as often as they count, which is what
the limit guards against.
-/

namespace RowQuery.Pattern

/-- A state of an automaton. -/
def stateSize : Nat := 32

/-- A state with two ways on. -/
def forkSize : Nat := stateSize + 8

/-! ## Characters as bytes -/

/-- Sequences of bytes, with a range for the byte at each place. -/
abbrev ByteRanges := List (Nat × Nat)

/-- The numbers from `first` to `last`, written with `places` digits of six bits behind the leading
one, as few sequences of ranges. A byte is a digit with `mark` added, which differs for the leading
byte. -/
def digitRanges (mark : Nat) : (places : Nat) → (first last : Nat) → List ByteRanges
  | 0, first, last => [[(mark + first, mark + last)]]
  | places + 1, first, last =>
    let unit := 64 ^ (places + 1)
    let below := fun digit low high =>
      (digitRanges 0x80 places low high).map ((mark + digit, mark + digit) :: ·)
    let a := first / unit
    let b := last / unit
    if a = b then below a (first % unit) (last % unit)
    else
      let start := if first % unit = 0 then a else a + 1
      let stop := if last % unit = unit - 1 then b + 1 else b
      (if start = a then [] else below a (first % unit) (unit - 1)) ++
        (if start < stop then
          (digitRanges 0x80 places 0 (unit - 1)).map ((mark + start, mark + stop - 1) :: ·)
        else []) ++
        if stop = b then below b 0 (last % unit) else []

/-- Each length of a character in bytes: how many bytes follow the leading one, the mark of that, and
the first and the last code point of the length. -/
def lengths : List (Nat × Nat × Nat × Nat) := [
  (0, 0, 0, 0x7F), (1, 0xC0, 0x80, 0x7FF), (2, 0xE0, 0x800, 0xFFFF), (3, 0xF0, 0x10000, 0x10FFFF)]

/-- Characters from `first` to `last` as sequences of byte ranges. -/
def byteRanges (first last : Nat) : List ByteRanges :=
  lengths.flatMap fun (places, mark, least, greatest) =>
    let first := max first least
    let last := min last greatest
    if first ≤ last then digitRanges mark places first last else []

/-- Number of entries that two lists share at their starts. -/
def sharedLength {α : Type} [DecidableEq α] : List α → List α → Nat
  | a :: as, b :: bs => if a = b then sharedLength as bs + 1 else 0
  | _, _ => 0

/-- Number of states that read the sequences behind `before` in a list; neighbours share the states of
a common start. -/
def statesBehind (before : ByteRanges) : List ByteRanges → Nat
  | [] => 0
  | bytes :: more => bytes.length - sharedLength before bytes + statesBehind bytes more

/-! ## Sets -/

namespace CharSet

/-- Code points at which a set may start or stop. -/
def edges : CharSet → List Nat
  | single c => [c.toNat, c.toNat + 1]
  | range first last => [first.toNat, last.toNat + 1]
  | having _ => Repertoire.edges
  | union a b => a.edges ++ b.edges
  | inter a b => a.edges ++ b.edges
  | compl a => a.edges
  | folded a => Repertoire.caseEdges ++ a.edges
  | foldedAscii a => List.range 129 ++ a.edges

/-- Whether a code point is that of a member. -/
def containsCode (s : CharSet) (n : Nat) : Bool :=
  n.isValidChar && s.contains (Char.ofNat n)

/-- Adds the code points from `first` to `last`, which lie behind all of `runs`; the last run comes
first. -/
def extendRuns (runs : List (Nat × Nat)) (first last : Nat) : List (Nat × Nat) :=
  match runs with
  | (start, stop) :: earlier =>
    if stop + 1 = first then (start, last) :: earlier else (first, last) :: runs
  | [] => [(first, last)]

/-- The runs of members between code points in order, in front of which `runs` were found. -/
def runsBetween (s : CharSet) (runs : List (Nat × Nat)) : List Nat → List (Nat × Nat)
  | first :: next :: edges =>
    s.runsBetween
      (if first < next && s.containsCode first then extendRuns runs first (next - 1) else runs)
      (next :: edges)
  | _ => runs.reverse

/-- The members as ranges of code points, in order. Surrogates part two ranges. -/
def runs (s : CharSet) : List (Nat × Nat) :=
  s.runsBetween [] ([0, 0xD800, 0xE000, 0x110000] ++ s.edges).mergeSort

/-- Size of a set: a chain of states for a single character, one state with a way for each range of
ASCII characters, and otherwise the states that the byte sequences of the ranges take. -/
def size (s : CharSet) : Nat :=
  match s.runs with
  | [] => stateSize
  | (first, last) :: more =>
    let runs := (first, last) :: more
    if more.isEmpty && first = last then stateSize * (Char.ofNat first).utf8Size
    else if runs.all (·.2 < 128) then 2 * stateSize + 8 * runs.length
    else
      let sequences := runs.flatMap fun run => byteRanges run.1 run.2
      2 * stateSize + 4 * sequences.length + stateSize * statesBehind [] sequences

/-- A bound on the size of a set that needs no look at its members. A set with a name takes less than
`2 ^ 16`, and so does its complement; a single range takes less than `2 ^ 11`. Where sets are cut, each
piece may take more sequences than the range it is cut from, though less than sixteen times as many. -/
def sizeBound : CharSet → Nat
  | single _ => 4 * stateSize
  | range _ _ => 2 ^ 11
  | having _ => 2 ^ 16
  | union a b => a.sizeBound + b.sizeBound
  | inter a b => 16 * (a.sizeBound + b.sizeBound)
  | compl (having _) => 2 ^ 16
  | compl a => 16 * a.sizeBound + 2 ^ 11
  | folded (single _) => 2 ^ 11
  | folded a => a.sizeBound + 2 ^ 16
  | foldedAscii a => a.sizeBound + 2 ^ 11

end CharSet

/-! ## Expressions -/

namespace Expr

/-- Whether an expression matches nothing but the empty text. -/
def onlyEmpty : Expr → Bool
  | empty => true
  | set _ => false
  | look _ => true
  | seq a b => a.onlyEmpty && b.onlyEmpty
  | alt a b => a.onlyEmpty && b.onlyEmpty
  | rep e _ most => e.onlyEmpty || most = some 0
  | capture e => e.onlyEmpty

/-- Whether an expression matches the empty text, where its conditions hold. -/
def mayBeEmpty : Expr → Bool
  | empty => true
  | set _ => false
  | look _ => true
  | seq a b => a.mayBeEmpty && b.mayBeEmpty
  | alt a b => a.mayBeEmpty || b.mayBeEmpty
  | rep e least _ => least = 0 || e.mayBeEmpty
  | capture e => e.mayBeEmpty

/-- The set that an expression stands for, where it is one or alternatives between sets. -/
def toSet? : Expr → Option CharSet
  | set s => some s
  | alt a b =>
    match a.toSet?, b.toSet? with
    | some s, some t => some (.union s t)
    | _, _ => none
  | _ => none

def isAlt : Expr → Bool
  | alt _ _ => true
  | _ => false

/-- Size of a repetition of an expression of size `one`. What may be left out stands behind a fork. -/
def repSize (one : Nat) (mayBeEmpty : Bool) : (least : Nat) → (most : Option Nat) → Nat
  | 0, none => one + if mayBeEmpty then 2 * forkSize + stateSize else forkSize
  | least, none => least * one + forkSize
  | 0, some 0 => stateSize
  | 0, some 1 => one + forkSize + stateSize
  | 0, some most => stateSize + most * (one + forkSize) + stateSize
  | least, some most =>
    if most ≤ least then least * one
    else least * one + (most - least) * (one + forkSize) + stateSize

/-- Size of an expression whose sets have the sizes `setSize`. A repetition of the empty text is no
more than the text itself, or a choice of it. Alternatives share the states in front of and behind
them. -/
def size (setSize : CharSet → Nat) : Expr → Nat
  | empty => stateSize
  | set s => setSize s
  | look _ => stateSize
  | seq a b => a.size setSize + b.size setSize
  | alt a b =>
    match (alt a b).toSet? with
    | some s => setSize s
    | none =>
      let ends := 2 * stateSize + 4
      let shared := (if a.isAlt then ends else 0) + if b.isAlt then ends else 0
      a.size setSize + b.size setSize + ends + 4 - shared
  | rep e least most =>
    if e.onlyEmpty then
      repSize (e.size setSize) e.mayBeEmpty (min least 1) (some (min (most.getD 1) 1))
    else repSize (e.size setSize) e.mayBeEmpty least most
  | capture e => e.size setSize + 2 * stateSize

/-- The states around a pattern. -/
def frameSize : Nat := 6 * stateSize + 16

def sizeLimit : Nat := 10 * 2 ^ 20

/-- Whether the size of a pattern is within the limit. -/
def fits (e : Expr) : Bool :=
  e.size CharSet.sizeBound + frameSize ≤ sizeLimit || e.size CharSet.size + frameSize ≤ sizeLimit

end Expr

end RowQuery.Pattern
