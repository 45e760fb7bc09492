import RowQuery.Text.Hex

/-!
# Blanks, comments and strings of settings files

Each reader takes the text that is left and returns what it read with what is behind it, or nothing where
the text is malformed. No control character but the tab may stand anywhere.
-/

namespace RowQuery.Toml

def isBlank (c : Char) : Bool :=
  c = ' ' || c = '\t'

/-- Characters that comments and strings may hold as they are. -/
def isTextChar (c : Char) : Bool :=
  c = '\t' || (0x20 ≤ c.toNat && c.toNat ≠ 0x7f)

def skipBlanks (cs : List Char) : List Char :=
  cs.dropWhile isBlank

/-- Skips blanks, line ends and comments. -/
def skipGap (inComment : Bool) : List Char → Option (List Char)
  | [] => some []
  | '\r' :: '\n' :: rest => skipGap false rest
  | '\n' :: rest => skipGap false rest
  | c :: rest =>
    if inComment then if isTextChar c then skipGap true rest else none
    else if isBlank c then skipGap false rest
    else if c = '#' then skipGap true rest
    else some (c :: rest)

/-- Skips blanks and a comment up to the end of the line, and that too. -/
def skipLineEnd (inComment : Bool) : List Char → Option (List Char)
  | [] => some []
  | '\r' :: '\n' :: rest => some rest
  | '\n' :: rest => some rest
  | c :: rest =>
    if inComment then if isTextChar c then skipLineEnd true rest else none
    else if isBlank c then skipLineEnd false rest
    else if c = '#' then skipLineEnd true rest
    else none

/-! ## Strings -/

/-- Characters and the text behind them. -/
abbrev Read := Option (List Char × List Char)

/-- Puts characters in front of those read. -/
def Read.after (cs : List Char) (r : Read) : Read :=
  r.map fun (read, rest) => (cs ++ read, rest)

/-- Where a reader stands inside a string between double quotes. -/
inductive Place where
  | plain
  /-- Behind a backslash. -/
  | escape
  /-- Inside a code point with `left` digits to come. -/
  | hex (left acc : Nat)
  /-- Behind a backslash and blanks: the line has to end. -/
  | lineEnd
  /-- Behind a line end that a backslash hides. -/
  | hidden

def shortEscape? : Char → Option Char
  | 'b' => some '\x08'
  | 't' => some '\t'
  | 'n' => some '\n'
  | 'f' => some '\x0c'
  | 'r' => some '\r'
  | 'e' => some '\x1b'
  | '\x22' => some '\x22'
  | '\\' => some '\\'
  | _ => none

/-- Number of digits of the code point behind an escape letter. -/
def hexCount? : Char → Option Nat
  | 'x' => some 2
  | 'u' => some 4
  | 'U' => some 8
  | _ => none

/-- Character with a code point. -/
def charOf? (n : Nat) : Option Char :=
  if n.isValidChar then some (Char.ofNat n) else none

/-- What an escape letter leads to: a character, or a code point to read. -/
def escapeLetter (c : Char) : Option (List Char × Place) :=
  match shortEscape? c, hexCount? c with
  | some e, _ => some ([e], .plain)
  | none, some n => some ([], .hex n 0)
  | none, none => none

/-- Reads a digit of a code point. -/
def hexStep (left acc : Nat) (c : Char) : Option (List Char × Place) := do
  let acc := 16 * acc + (← Text.hexDigit? c)
  if left ≤ 1 then
    let e ← charOf? acc
    return ([e], .plain)
  else return ([], .hex (left - 1) acc)

/-- A string on one line, behind its double quote. -/
def basicString (place : Place) : List Char → Read
  | [] => none
  | c :: rest =>
    match place with
    | .plain =>
      if c = '\x22' then some ([], rest)
      else if c = '\\' then basicString .escape rest
      else if isTextChar c then Read.after [c] (basicString .plain rest)
      else none
    | .hex left acc =>
      match hexStep left acc c with
      | some (read, place) => Read.after read (basicString place rest)
      | none => none
    | _ =>
      match escapeLetter c with
      | some (read, place) => Read.after read (basicString place rest)
      | none => none

/-- A string on one line, behind its single quote: it has no escapes. -/
def literalString : List Char → Read
  | [] => none
  | c :: rest =>
    if c = '\x27' then some ([], rest)
    else if isTextChar c then Read.after [c] (literalString rest)
    else none

/-- End of a string that three quotes close: up to two more quotes belong to the string. -/
def closingQuotes? (quote : Char) (cs : List Char) : Read :=
  let count := (cs.take 5).takeWhile (· = quote) |>.length
  if 3 ≤ count then some (List.replicate (count - 3) quote, cs.drop count) else none

/-- Whether a character ends a line or begins its end. -/
def isLineEnd (c : Char) (rest : List Char) : Bool :=
  c = '\n' || (c = '\r' && rest.head? = some '\n')

/-- A string behind three single quotes. -/
def longLiteralString : List Char → Read
  | [] => none
  | c :: rest =>
    match closingQuotes? '\x27' (c :: rest) with
    | some closed => some closed
    | none =>
      if isTextChar c || isLineEnd c rest then
        Read.after [c] (longLiteralString rest)
      else none

/-- A string behind three double quotes. -/
def longBasicString (place : Place) : List Char → Read
  | [] => none
  | c :: rest =>
    let plain :=
      match closingQuotes? '\x22' (c :: rest) with
      | some closed => some closed
      | none =>
        if c = '\\' then longBasicString .escape rest
        else if isTextChar c || isLineEnd c rest then
          Read.after [c] (longBasicString .plain rest)
        else none
    match place with
    | .plain => plain
    | .hidden =>
      if isBlank c || isLineEnd c rest then longBasicString .hidden rest else plain
    | .lineEnd =>
      if isBlank c then longBasicString .lineEnd rest
      else if isLineEnd c rest then longBasicString .hidden rest
      else none
    | .hex left acc =>
      match hexStep left acc c with
      | some (read, place) => Read.after read (longBasicString place rest)
      | none => none
    | .escape =>
      if isBlank c then longBasicString .lineEnd rest
      else if isLineEnd c rest then longBasicString .hidden rest
      else
        match escapeLetter c with
        | some (read, place) => Read.after read (longBasicString place rest)
        | none => none

/-- Text of a long string, of which a line end at its start is no part. -/
def dropFirstLineEnd : List Char → List Char
  | '\n' :: rest => rest
  | '\r' :: '\n' :: rest => rest
  | cs => cs

/-- A string of one line at the start of a text, if one starts there. -/
def shortString? : List Char → Option Read
  | '\x22' :: rest => some (basicString .plain rest)
  | '\x27' :: rest => some (literalString rest)
  | _ => none

/-- A string of either kind at the start of a text, if one starts there. -/
def string? : List Char → Option Read
  | '\x22' :: '\x22' :: '\x22' :: rest => some (longBasicString .plain (dropFirstLineEnd rest))
  | '\x27' :: '\x27' :: '\x27' :: rest => some (longLiteralString (dropFirstLineEnd rest))
  | cs => shortString? cs

end RowQuery.Toml
