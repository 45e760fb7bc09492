import RowQuery.Number.Power
import RowQuery.Pattern.Expr
import RowQuery.Pattern.Property
import RowQuery.Text.Search

/-!
# Atoms of patterns

Flags, escapes and the errors of pattern texts. Every reader takes the text that is left and returns
what it read with the text behind it.
-/

namespace RowQuery.Pattern

inductive PatternError where
  | missingOperand
  | invalidCount
  | unclosedCount
  | unopenedGroup
  | unclosedGroup
  | invalidGroupName
  | duplicateGroupName (name : String)
  | invalidFlags
  | lookAround
  | backreference
  | invalidEscape
  | invalidHex
  | unclosedClass
  | invalidRange
  | invalidClassItem
  | unknownProperty
  | invalidBoundary
  /-- A part that could match half a character. -/
  | notText
  | tooDeep
  | tooLarge
  deriving DecidableEq, Repr, Inhabited

def PatternError.message : PatternError → String
  | missingOperand => "repetition operator missing expression"
  | invalidCount => "invalid repetition count"
  | unclosedCount => "unclosed counted repetition"
  | unopenedGroup => "unopened group"
  | unclosedGroup => "unclosed group"
  | invalidGroupName => "invalid capture group name"
  | duplicateGroupName name => "duplicate capture group name '" ++ name ++ "'"
  | invalidFlags => "invalid flags"
  | lookAround => "look-around is not supported"
  | backreference => "backreferences are not supported"
  | invalidEscape => "unrecognized escape sequence"
  | invalidHex => "invalid hexadecimal escape"
  | unclosedClass => "unclosed character class"
  | invalidRange => "invalid character class range"
  | invalidClassItem => "invalid escape in character class"
  | unknownProperty => "unknown character property"
  | invalidBoundary => "invalid word boundary assertion"
  | notText => "pattern can match half a character"
  | tooDeep => "pattern nests too deeply"
  | tooLarge => "pattern is too large"

/-- Settings in force at a place of a pattern. -/
structure Flags where
  ignoreCase : Bool := false
  multiLine : Bool := false
  dotMatchesNewline : Bool := false
  /-- Blanks and comments in the pattern count for nothing. -/
  extended : Bool := false
  unicode : Bool := true
  anyLineEnding : Bool := false

/-- The text behind the blanks and comments at its start. -/
def skipComments : (inComment : Bool) → List Char → List Char
  | _, [] => []
  | true, c :: rest => skipComments (c ≠ '\n') rest
  | false, c :: rest =>
    if c = '#' then skipComments true rest
    else if Text.isBlank c then skipComments false rest
    else c :: rest

namespace Flags

/-- Skips what counts for nothing. -/
def skip (flags : Flags) (cs : List Char) : List Char :=
  if flags.extended then skipComments false cs else cs

/-- Skips one character and what counts for nothing behind it. -/
def next (flags : Flags) (cs : List Char) : List Char :=
  flags.skip (cs.drop 1)

/-- Test for characters of words. -/
def isWord (flags : Flags) : Char → Bool :=
  if flags.unicode then Repertoire.isWord else CharSet.isAsciiWord

/-- Set with the case variants that the flags ask for. -/
def foldSet (flags : Flags) (s : CharSet) : CharSet :=
  if !flags.ignoreCase then s else if flags.unicode then .folded s else .foldedAscii s

/-- A set, refused where single bytes that are no characters would belong to it. -/
def checkSet (flags : Flags) (s : CharSet) : Except PatternError CharSet :=
  if flags.unicode || s.isAscii then .ok s else .error .notText

end Flags

/-- What an escape or a plain character stands for. -/
inductive Atom where
  /-- A character; `byte` if it was written as a two-digit hexadecimal number. -/
  | char (c : Char) (byte : Bool)
  | set (s : CharSet)
  | look (l : Look)

/-! ## Numbers -/

/-- Characters that satisfy `p`, behind those of `read`, and the text behind them. -/
def readWhile (flags : Flags) (p : Char → Bool) : (fuel : Nat) → List Char → List Char →
    List Char × List Char
  | 0, read, cs => (read, cs)
  | fuel + 1, read, cs =>
    match cs with
    | c :: _ => if p c then readWhile flags p fuel (read ++ [c]) (flags.next cs) else (read, cs)
    | [] => (read, [])

/-- A decimal number of 32 bits; blanks may stand around it. -/
def decimal? (flags : Flags) (cs : List Char) : Except PatternError (Option Nat × List Char) :=
  let start := cs.dropWhile Text.isBlank
  let (read, rest) := readWhile flags Char.isDigit start.length [] start
  let rest := rest.dropWhile Text.isBlank
  let n := read.foldl (fun n d => 10 * n + (d.toNat - '0'.toNat)) 0
  if read.isEmpty then .ok (none, rest)
  else if n < 2 ^ 32 then .ok (some n, rest)
  else .error .invalidCount

def charOfHex? (digits : List Char) : Except PatternError Char :=
  let n := Text.hexValue digits
  if n.isValidChar then .ok (Char.ofNat n) else .error .invalidHex

/-- `count` hexadecimal digits. -/
def hexDigits (flags : Flags) : (count : Nat) → List Char → List Char →
    Except PatternError (Char × List Char)
  | 0, read, cs => (charOfHex? read).map fun c => (c, cs)
  | count + 1, read, cs =>
    match cs with
    | c :: _ =>
      if (Text.hexDigit? c).isSome then hexDigits flags count (read ++ [c]) (flags.next cs)
      else .error .invalidHex
    | [] => .error .invalidHex

/-- Hexadecimal digits up to a closing brace. -/
def hexBraced (flags : Flags) : (fuel : Nat) → List Char → List Char →
    Except PatternError (Char × List Char)
  | 0, _, _ => .error .invalidHex
  | fuel + 1, read, cs =>
    match cs with
    | '\x7d' :: _ =>
      if read.isEmpty then .error .invalidHex
      else (charOfHex? read).map fun c => (c, flags.next cs)
    | c :: _ =>
      if (Text.hexDigit? c).isSome then hexBraced flags fuel (read ++ [c]) (flags.next cs)
      else .error .invalidHex
    | [] => .error .invalidHex

/-- A hexadecimal escape behind its letter: `count` digits, or digits in braces. -/
def hexEscape (flags : Flags) (count : Nat) (cs : List Char) :
    Except PatternError (Atom × List Char) :=
  match cs with
  | '\x7b' :: _ =>
    (hexBraced flags cs.length [] (flags.next cs)).map fun (c, rest) => (.char c false, rest)
  | cs => (hexDigits flags count [] cs).map fun (c, rest) => (.char c (count = 2), rest)

/-! ## Classes -/

/-- Set of a property, or of all other characters. -/
def propertyAtom (flags : Flags) (negated : Bool) (set? : Option CharSet) :
    Except PatternError Atom :=
  match set? with
  | none => .error .unknownProperty
  | some s =>
    if !flags.unicode then .error .notText
    else .ok (.set (if negated then .compl (flags.foldSet s) else flags.foldSet s))

/-- Characters up to a closing brace. -/
def upToBrace (flags : Flags) : (fuel : Nat) → List Char → List Char →
    Except PatternError (List Char × List Char)
  | 0, _, _ => .error .invalidEscape
  | fuel + 1, read, cs =>
    match cs with
    | '\x7d' :: rest => .ok (read, rest)
    | c :: _ => upToBrace flags fuel (read ++ [c]) (flags.next cs)
    | [] => .error .invalidEscape

/-- Property with its value, as `name=value`, `name:value` or `name!=value`, or a name alone. -/
def namedProperty (flags : Flags) (negated : Bool) (name : List Char) :
    Except PatternError Atom :=
  let split := fun (mark : List Char) =>
    (Text.after? mark name).map fun value =>
      (String.ofList (name.take (name.length - value.length - mark.length)),
        String.ofList value)
  match split ['!', '='] with
  | some (p, v) => propertyAtom flags (!negated) (valueSet? p v)
  | none =>
    match split [':'] with
    | some (p, v) => propertyAtom flags negated (valueSet? p v)
    | none =>
      match split ['='] with
      | some (p, v) => propertyAtom flags negated (valueSet? p v)
      | none => propertyAtom flags negated (propertySet? (String.ofList name))

/-- A property escape behind its letter. -/
def propertyEscape (flags : Flags) (negated : Bool) (cs : List Char) :
    Except PatternError (Atom × List Char) :=
  match cs with
  | [] => .error .invalidEscape
  | '\x7b' :: _ => do
    let (name, rest) ← upToBrace flags cs.length [] (flags.next cs)
    return (← namedProperty flags negated name, rest)
  | '\\' :: _ => .error .unknownProperty
  | c :: _ => do
    let atom ← propertyAtom flags negated (propertySet? (String.singleton c))
    return (atom, flags.next cs)

/-- A class of one letter, such as `d`; the capital letter stands for the other characters. -/
def letterClass (flags : Flags) (letter : Char) : Except PatternError Atom := do
  let s :=
    if letter.toLower = 'd' then if flags.unicode then CharSet.digit else .asciiDigit
    else if letter.toLower = 's' then if flags.unicode then CharSet.space else .asciiSpace
    else if flags.unicode then CharSet.word else .asciiWord
  return .set (← flags.checkSet (if letter.isUpper then .compl s else s))

/-! ## Escapes -/

/-- Characters with a meaning of their own in patterns. -/
def isMeta (c : Char) : Bool :=
  ['\\', '.', '+', '*', '?', '(', ')', '|', '[', ']', '\x7b', '\x7d', '^', '$', '#', '&', '-',
    '~'].contains c

/-- Characters that may stand behind a backslash for themselves. -/
def isEscapable (c : Char) : Bool :=
  isMeta c || (c.toNat < 128 && !c.isAlphanum && c != '<' && c != '>')

/-- A word boundary behind `\b`: perhaps its kind in braces. Braces that do not start with a name are
left to a counted repetition. -/
def boundaryEscape (flags : Flags) (cs : List Char) :
    Except PatternError (Look × List Char) :=
  let isName := fun c : Char => c.isAlpha || c = '-'
  let plain := (Look.boundary flags.isWord, cs)
  match cs with
  | '\x7b' :: _ =>
    match flags.next cs with
    | [] => .error .invalidBoundary
    | c :: more =>
      if !isName c then .ok plain
      else
        match readWhile flags isName (c :: more).length [] (c :: more) with
        | (read, '\x7d' :: rest) =>
          match String.ofList read with
          | "start" => .ok (.wordStart flags.isWord, rest)
          | "end" => .ok (.wordEnd flags.isWord, rest)
          | "start-half" => .ok (.wordStartHalf flags.isWord, rest)
          | "end-half" => .ok (.wordEndHalf flags.isWord, rest)
          | _ => .error .invalidBoundary
        | _ => .error .invalidBoundary
  | _ => .ok plain

/-- An escape behind its backslash. -/
def escape (flags : Flags) (cs : List Char) : Except PatternError (Atom × List Char) :=
  match cs with
  | [] => .error .invalidEscape
  | c :: rest =>
    let plain := fun d : Char => Except.ok (Atom.char d false, rest)
    let look := fun l : Look => Except.ok (Atom.look l, rest)
    if c.isDigit then .error .backreference
    else if isEscapable c then plain c
    else
      match c with
      | 'x' => hexEscape flags 2 (flags.next cs)
      | 'u' => hexEscape flags 4 (flags.next cs)
      | 'U' => hexEscape flags 8 (flags.next cs)
      | 'p' => propertyEscape flags false (flags.next cs)
      | 'P' => propertyEscape flags true (flags.next cs)
      | 'd' | 's' | 'w' | 'D' | 'S' | 'W' => (letterClass flags c).map fun a => (a, rest)
      | 'a' => plain '\x07'
      | 'f' => plain '\x0c'
      | 't' => plain '\t'
      | 'n' => plain '\n'
      | 'r' => plain '\r'
      | 'v' => plain '\x0b'
      | 'A' => look .textStart
      | 'z' => look .textEnd
      | 'b' => (boundaryEscape flags rest).map fun (l, rest) => (.look l, rest)
      | 'B' => look (.noBoundary flags.isWord)
      | '<' => look (.wordStart flags.isWord)
      | '>' => look (.wordEnd flags.isWord)
      | _ => .error .invalidEscape

/-- A character or an escape. -/
def atom (flags : Flags) (cs : List Char) : Except PatternError (Atom × List Char) :=
  match cs with
  | '\\' :: rest => escape flags rest
  | c :: rest => .ok (.char c false, rest)
  | [] => .error .invalidEscape

end RowQuery.Pattern
