import RowQuery.Pattern.Class
import RowQuery.Pattern.Size

/-!
# Reading patterns

What is open stands on a stack of groups, the innermost first; each group collects finished branches and
the items of the branch being read. A repetition applies to the last item.
-/

namespace RowQuery.Pattern

/-- Part of a branch. -/
inductive Item where
  | expr (e : Nested Expr)
  /-- A change of flags, which cannot be repeated. -/
  | flags

/-- An open group. -/
structure Group where
  /-- Finished branches, the last one first. -/
  branches : List (Nested Expr) := []
  /-- Items of the branch being read, the last one first. -/
  items : List Item := []
  /-- Flags inside the group. -/
  flags : Flags
  /-- Whether the text that the group matches is kept. -/
  captures : Bool := false

namespace Item

def expr? : Item → Option Expr
  | expr e => some e.part
  | flags => none

def depth : Item → Nat
  | expr e => e.depth
  | flags => 0

end Item

namespace Group

/-- The branch being read. -/
def branch (g : Group) : Nested Expr :=
  let e :=
    match g.items.filterMap Item.expr? with
    | [] => .empty
    | last :: before => before.foldl (fun e f => .seq f e) last
  ⟨e, listDepth (g.items.map (·.depth))⟩

/-- The alternatives of a group. -/
def alternatives (g : Group) : Nested Expr :=
  let last := g.branch
  ⟨g.branches.foldl (fun e f => .alt f.part e) last.part,
    listDepth (last.depth :: g.branches.map (·.depth))⟩

/-- A closed group as a part of the group around it. -/
def whole (g : Group) : Nested Expr :=
  let ⟨e, depth⟩ := g.alternatives
  ⟨if g.captures then .capture e else e, depth + 1⟩

def add (g : Group) (e : Nested Expr) : Group :=
  { g with items := .expr e :: g.items }

/-- Repeats the last item. -/
def repeated (g : Group) (least : Nat) (most : Option Nat) : Except PatternError Group :=
  match g.items with
  | .expr e :: items =>
    .ok { g with items := .expr ⟨.rep e.part least most, e.depth + 1⟩ :: items }
  | _ => .error .missingOperand

end Group

/-- Expression for an atom outside classes. -/
def Atom.expr (flags : Flags) : Atom → Except PatternError Expr
  | .char c byte =>
    if byte && !flags.unicode && 128 ≤ c.toNat then .error .notText
    else if !flags.unicode && 128 ≤ c.toNat then .ok (.set (.single c))
    else .ok (.set (flags.foldSet (.single c)))
  | .set s => .ok (.set s)
  | .look l => .ok (.look l)

/-- The set that a dot stands for. -/
def dotSet (flags : Flags) : Except PatternError CharSet :=
  if !flags.unicode then .error .notText
  else if flags.dotMatchesNewline then .ok .any
  else if flags.anyLineEnding then .ok (.compl (.union (.single '\n') (.single '\r')))
  else .ok (.compl (.single '\n'))

def lineStartLook (flags : Flags) : Look :=
  if !flags.multiLine then .textStart else if flags.anyLineEnding then .anyLineStart else .lineStart

def lineEndLook (flags : Flags) : Look :=
  if !flags.multiLine then .textEnd else if flags.anyLineEnding then .anyLineEnd else .lineEnd

/-! ## Flags -/

/-- Sets one flag by its letter. -/
def Flags.set? (flags : Flags) (letter : Char) (on : Bool) : Option Flags :=
  match letter with
  | 'i' => some { flags with ignoreCase := on }
  | 'm' => some { flags with multiLine := on }
  | 's' => some { flags with dotMatchesNewline := on }
  | 'x' => some { flags with extended := on }
  | 'u' => some { flags with unicode := on }
  | 'R' => some { flags with anyLineEnding := on }
  | 'U' => some flags
  | _ => none

/-- Reads flags up to a closing parenthesis or a colon: the flags, whether there were any, the mark
and the text behind it. A hyphen may stand once and switches the flags behind it off. -/
def readFlags (flags : Flags) (seen : List Char) :
    List Char → Except PatternError (Flags × Bool × Char × List Char)
  | [] => .error .invalidFlags
  | c :: rest =>
    if c = ':' ∨ c = ')' then
      if seen.head? = some '-' then .error .invalidFlags
      else .ok (flags, !seen.isEmpty, c, rest)
    else if seen.contains c then .error .invalidFlags
    else if c = '-' then readFlags flags (c :: seen) rest
    else
      match flags.set? c (!seen.contains '-') with
      | some flags => readFlags flags (c :: seen) rest
      | none => .error .invalidFlags

/-! ## Groups -/

def isNameChar (first : Bool) (c : Char) : Bool :=
  c = '_' || if first then Text.isAlphabetic c
    else c = '.' || c = '[' || c = ']' || Text.isAlphanumeric c

/-- A group name up to its closing angle. -/
def groupName (names : List String) (cs : List Char) :
    Except PatternError (String × List Char) :=
  let name := cs.takeWhile (· ≠ '>')
  match name, cs.dropWhile (· ≠ '>') with
  | c :: more, '>' :: rest =>
    if isNameChar true c && more.all (isNameChar false) then
      let name := String.ofList name
      if names.contains name then .error (.duplicateGroupName name) else .ok (name, rest)
    else .error .invalidGroupName
  | _, _ => .error .invalidGroupName

/-- State of the reader: the group being read, the groups around it, and the group names in use. -/
structure State where
  inner : Group
  outer : List Group := []
  names : List String := []

namespace State

/-- Adds an expression that nothing nests in. -/
def add (s : State) (e : Expr) : State :=
  { s with inner := s.inner.add ⟨e, 0⟩ }

def enter (s : State) (flags : Flags) (captures : Bool) : State :=
  { s with inner := ⟨[], [], flags, captures⟩, outer := s.inner :: s.outer }

/-- Reads the text behind an opening parenthesis. -/
def openGroup (s : State) (cs : List Char) : Except PatternError (State × List Char) :=
  let flags := s.inner.flags
  let named := fun rest => do
    let (name, rest) ← groupName s.names rest
    return ({ s.enter flags true with names := name :: s.names }, rest)
  match flags.skip cs with
  | '?' :: '=' :: _ | '?' :: '!' :: _ | '?' :: '<' :: '=' :: _ | '?' :: '<' :: '!' :: _ =>
    .error .lookAround
  | '?' :: 'P' :: '<' :: rest => named rest
  | '?' :: '<' :: rest => named rest
  | '?' :: rest => do
    let (new, any, mark, rest) ← readFlags flags [] rest
    if mark = ':' then return (s.enter new false, rest)
    else if any then
      return ({ s with inner := { s.inner with flags := new, items := .flags :: s.inner.items } },
        rest)
    else .error .missingOperand
  | rest => .ok (s.enter flags true, rest)

def closeGroup (s : State) : Except PatternError State :=
  match s.outer with
  | [] => .error .unopenedGroup
  | parent :: outer => .ok { s with inner := parent.add s.inner.whole, outer := outer }

def nextBranch (s : State) : State :=
  { s with inner := { s.inner with branches := s.inner.branch :: s.inner.branches, items := [] } }

def repeated (s : State) (least : Nat) (most : Option Nat) : Except PatternError State :=
  (s.inner.repeated least most).map fun g => { s with inner := g }

end State

/-- Reads a question mark that makes a repetition lazy, which changes nothing here. -/
def skipLazy : List Char → List Char
  | '?' :: rest => rest
  | cs => cs

/-- A counted repetition, from its opening brace on: the least and the greatest count. -/
def countedRepetition (flags : Flags) (cs : List Char) :
    Except PatternError (Nat × Option Nat × List Char) := do
  let cs := flags.next cs
  if cs.isEmpty then .error .unclosedCount
  else
    let (least, cs) ← decimal? flags cs
    let finish := fun (least : Nat) (most : Option Nat) (cs : List Char) =>
      match cs with
      | '\x7d' :: _ =>
        if most.all (least ≤ ·) then Except.ok (least, most, skipLazy (flags.next cs))
        else .error .invalidCount
      | _ => .error .unclosedCount
    match cs, least with
    | [], _ => .error .unclosedCount
    | _, none => .error .invalidCount
    | ',' :: _, some least =>
      let cs := flags.next cs
      match cs with
      | [] => .error .unclosedCount
      | '\x7d' :: _ => finish least none cs
      | cs => do
        let (most, cs) ← decimal? flags cs
        match most with
        | none => .error .invalidCount
        | some most => finish least (some most) cs
    | cs, some least => finish least (some least) cs

/-- Reads the rest of a pattern. Every step takes a character. -/
def readFrom : (fuel : Nat) → State → List Char → Except PatternError (Nested Expr)
  | 0, _, _ => .error .unclosedGroup
  | fuel + 1, s, cs =>
    let flags := s.inner.flags
    let cs := flags.skip cs
    match cs with
    | [] => if s.outer.isEmpty then .ok s.inner.alternatives else .error .unclosedGroup
    | '(' :: rest => do
      let (s, rest) ← s.openGroup rest
      readFrom fuel s rest
    | ')' :: rest => do readFrom fuel (← s.closeGroup) rest
    | '|' :: rest => readFrom fuel s.nextBranch rest
    | '[' :: _ => do
      let (⟨set, depth⟩, rest) ← bracketClass flags cs
      readFrom fuel { s with inner := s.inner.add ⟨.set set, depth⟩ } rest
    | '?' :: rest => do readFrom fuel (← s.repeated 0 (some 1)) (skipLazy rest)
    | '*' :: rest => do readFrom fuel (← s.repeated 0 none) (skipLazy rest)
    | '+' :: rest => do readFrom fuel (← s.repeated 1 none) (skipLazy rest)
    | '\x7b' :: _ => do
      let _ ← s.repeated 1 (some 1)
      let (least, most, rest) ← countedRepetition flags cs
      readFrom fuel (← s.repeated least most) rest
    | '.' :: rest => do readFrom fuel (s.add (.set (← dotSet flags))) rest
    | '^' :: rest => readFrom fuel (s.add (.look (lineStartLook flags))) rest
    | '$' :: rest => readFrom fuel (s.add (.look (lineEndLook flags))) rest
    | cs => do
      let (a, rest) ← atom flags cs
      readFrom fuel (s.add (← a.expr flags)) rest

def parse (text : List Char) : Except PatternError Expr := do
  let ⟨e, depth⟩ ← readFrom (text.length + 1) ⟨⟨[], [], {}, false⟩, [], []⟩ text
  if depthLimit < depth then .error .tooDeep
  else if e.fits then return e
  else .error .tooLarge

end RowQuery.Pattern
