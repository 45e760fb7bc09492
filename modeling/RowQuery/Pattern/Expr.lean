import RowQuery.Pattern.CharSet

/-!
# Patterns and what they match

A pattern runs over a set of positions of a text: `ends r ps` are the positions behind the matches of
`r` that start at a position of `ps`. A pattern occurs in a text when it has a match that starts at any
position.
-/

namespace RowQuery.Pattern

/-- A position in a text: the character in front of it, and what is behind it. -/
structure Position where
  before : Option Char
  rest : List Char

/-- A condition on a position. -/
inductive Look where
  | textStart
  | textEnd
  | lineStart
  | lineEnd
  /-- Start and end of a line that `\r\n`, `\r` or `\n` ends. -/
  | anyLineStart
  | anyLineEnd
  | boundary (isWord : Char → Bool)
  | noBoundary (isWord : Char → Bool)
  | wordStart (isWord : Char → Bool)
  | wordEnd (isWord : Char → Bool)
  | wordStartHalf (isWord : Char → Bool)
  | wordEndHalf (isWord : Char → Bool)

namespace Look

def holds (look : Look) (p : Position) : Bool :=
  let after := p.rest.head?
  match look with
  | textStart => p.before.isNone
  | textEnd => after.isNone
  | lineStart => p.before.all (· = '\n')
  | lineEnd => after.all (· = '\n')
  | anyLineStart =>
    match p.before with
    | none => true
    | some c => c = '\n' || (c = '\r' && after != some '\n')
  | anyLineEnd =>
    match after with
    | none => true
    | some c => c = '\r' || (c = '\n' && p.before != some '\r')
  | boundary w => p.before.any w != after.any w
  | noBoundary w => p.before.any w == after.any w
  | wordStart w => !p.before.any w && after.any w
  | wordEnd w => p.before.any w && !after.any w
  | wordStartHalf w => !p.before.any w
  | wordEndHalf w => !after.any w

end Look

inductive Expr where
  | empty
  | set (s : CharSet)
  | look (l : Look)
  | seq (a b : Expr)
  | alt (a b : Expr)
  /-- At least `least` times, and at most `most` times if that is given. -/
  | rep (e : Expr) (least : Nat) (most : Option Nat)
  /-- A group that keeps what it matches, which is never asked for. -/
  | capture (e : Expr)

/-- Positions of a text in order, each once; an earlier position has more text behind it. -/
abbrev Positions := List Position

namespace Positions

/-- Union of two sets of positions. -/
def merge : Positions → Positions → Positions
  | [], qs => qs
  | ps, [] => ps
  | p :: ps, q :: qs =>
    if q.rest.length < p.rest.length then p :: merge ps (q :: qs)
    else if p.rest.length < q.rest.length then q :: merge (p :: ps) qs
    else p :: merge ps qs

/-- All positions of a text. -/
def all (before : Option Char) : List Char → Positions
  | [] => [⟨before, []⟩]
  | c :: rest => ⟨before, c :: rest⟩ :: all (some c) rest

end Positions

/-- Position behind a member of `s`. -/
def advance? (s : CharSet) (p : Position) : Option Position :=
  match p.rest with
  | c :: rest => if s.contains c then some ⟨some c, rest⟩ else none
  | [] => none

/-- Applies `f` `n` times, and stops early at an empty set. -/
def repeatFor (f : Positions → Positions) : Nat → Positions → Positions
  | 0, ps => ps
  | n + 1, ps => if ps.isEmpty then ps else repeatFor f n (f ps)

/-- Adds what `f` reaches from a set of positions, in `n` rounds; a round that adds nothing is the
last. -/
def reachFor (f : Positions → Positions) : Nat → Positions → Positions
  | 0, ps => ps
  | n + 1, ps =>
    let more := Positions.merge ps (f ps)
    if more.length = ps.length then ps else reachFor f n more

/-- Positions behind the matches that start in a set of positions of a text of `length` characters.
A round of a repetition decides about a position by the ones in front of it, so that rounds beyond
`length + 1`, the number of positions, change nothing. -/
def Expr.ends (length : Nat) : Expr → Positions → Positions
  | empty, ps => ps
  | set s, ps => ps.filterMap (advance? s)
  | look l, ps => ps.filter l.holds
  | seq a b, ps => b.ends length (a.ends length ps)
  | alt a b, ps => Positions.merge (a.ends length ps) (b.ends length ps)
  | rep e least most, ps =>
    let start := repeatFor (e.ends length) (min least (length + 1)) ps
    match most with
    | none => reachFor (e.ends length) (length + 1) start
    | some most => reachFor (e.ends length) (min (most - least) (length + 1)) start
  | capture e, ps => e.ends length ps

/-- Whether a pattern matches some part of a text. -/
def Expr.occursIn (e : Expr) (text : List Char) : Bool :=
  !(e.ends text.length (Positions.all none text)).isEmpty

end RowQuery.Pattern
