import RowQuery.Lambda.Token
import RowQuery.Text.Search

/-!
# Tokens in a text

`scan?` reads the first token of a text that starts with no blank, and says how long it is; `lexFrom`
reads tokens one after the other, blanks between them, up to the end of the text or the first error.
Offsets count characters.
-/

namespace RowQuery.Lambda

inductive LexError where
  | unexpectedChar (c : Char) (offset : Nat)
  /-- Half of the operator `suggestion`. -/
  | incomplete (c : Char) (suggestion : String) (offset : Nat)
  | unterminatedString (offset : Nat)
  | invalidEscape (c : Char) (offset : Nat)
  | invalidNumber (text : String) (offset : Nat)
  deriving DecidableEq, Repr, Inhabited

namespace LexError

def offset : LexError → Nat
  | unexpectedChar _ o | incomplete _ _ o | unterminatedString o | invalidEscape _ o
  | invalidNumber _ o => o

/-- Offset of the first character that had not been read when the error was found in a text of `length`
characters. -/
def readUpTo (length : Nat) : LexError → Nat
  | unterminatedString _ => length
  | invalidNumber text o => o + text.length
  | e => e.offset

def message : LexError → String
  | unexpectedChar c o =>
    "unexpected character '" ++ c.toString ++ "' at position " ++ o.repr
  | incomplete c suggestion o =>
    "unexpected '" ++ c.toString ++ "' at position " ++ o.repr ++ " (did you mean '" ++
      suggestion ++ "'?)"
  | unterminatedString o => "unterminated string starting at position " ++ o.repr
  | invalidEscape c o =>
    "invalid escape sequence '\\" ++ c.toString ++ "' at position " ++ o.repr
  | invalidNumber text o => "invalid number '" ++ text ++ "' at position " ++ o.repr

end LexError

/-- A token, the number of characters it takes, and the text behind it. -/
structure Lexeme where
  token : Token
  length : Nat
  rest : List Char

/-! ## Words, numbers, strings -/

/-- Token for a word: a keyword, or a name. -/
def wordToken (word : String) : Token :=
  if word = "and" then .connective .and .word
  else if word = "or" then .connective .or .word
  else if word = "true" then .bool true
  else if word = "false" then .bool false
  else if word = "null" then .null
  else if word = "return" then .returnWord
  else .ident word

def scanWord (cs : List Char) : Lexeme :=
  let word := cs.takeWhile Text.isWordChar
  ⟨wordToken (String.ofList word), word.length, cs.dropWhile Text.isWordChar⟩

/-- A point that a digit follows, and the digits behind it; nothing where no such point stands. -/
def fraction : List Char → List Char × List Char
  | '.' :: d :: rest =>
    if Number.isDigit d then
      ('.' :: d :: rest.takeWhile Number.isDigit, rest.dropWhile Number.isDigit)
    else ([], '.' :: d :: rest)
  | cs => ([], cs)

/-- A number: digits, and perhaps a point and more digits. Integers must fit 64 bits. -/
def scanNumber (offset : Nat) (cs : List Char) : Except LexError Lexeme :=
  let whole := cs.takeWhile Number.isDigit
  let (point, rest) := fraction (cs.dropWhile Number.isDigit)
  let text := whole ++ point
  let token? :=
    if point.isEmpty then (Number.int64? text).map Token.int
    else (Number.float? text).map Token.float
  match token? with
  | some token => .ok ⟨token, text.length, rest⟩
  | none => .error (.invalidNumber (String.ofList text) offset)

/-- Character that an escape letter stands for. -/
def unescape? : Char → Option Char
  | 'n' => some '\n'
  | 't' => some '\t'
  | 'r' => some '\r'
  | '\x22' => some '\x22'
  | '\x27' => some '\x27'
  | '\\' => some '\\'
  | _ => none

/-- Characters of a string up to its closing quote, and the text behind that. The string was opened at
`start`; the text begins at `offset`. -/
def stringBody (quote : Char) (start offset : Nat) :
    List Char → Except LexError (List Char × Nat × List Char)
  | [] => .error (.unterminatedString start)
  | [c] =>
    if c = quote then .ok ([], offset + 1, []) else .error (.unterminatedString start)
  | c :: d :: rest =>
    if c = quote then .ok ([], offset + 1, d :: rest)
    else if c = '\\' then
      match unescape? d with
      | some e => do
        let (s, stop, rest) ← stringBody quote start (offset + 2) rest
        return (e :: s, stop, rest)
      | none => .error (.invalidEscape d (offset + 1))
    else do
      let (s, stop, rest) ← stringBody quote start (offset + 1) (d :: rest)
      return (c :: s, stop, rest)

/-- A string, from its opening quote on. -/
def scanString (offset : Nat) (quote : Char) (rest : List Char) : Except LexError Lexeme := do
  let (s, stop, rest) ← stringBody quote offset (offset + 1) rest
  return ⟨.str (String.ofList s), stop - offset, rest⟩

/-! ## Operators and delimiters -/

/-- Written operators and delimiters, each behind the ones that it begins. An operator's first half
alone is an error that carries the whole. -/
def symbols : List (List Char × Except String Token) := [
  (['.'], .ok .dot), ([','], .ok .comma), ([';'], .ok .semicolon), (['('], .ok .lparen),
  ([')'], .ok .rparen), (['+'], .ok .plus), (['-'], .ok .minus), (['*'], .ok .star),
  (['/'], .ok .slash), (['%'], .ok .percent), (['=', '>'], .ok .arrow),
  (['=', '=', '='], .ok (.comparison .strictEqual)), (['=', '='], .ok (.comparison .equal)),
  (['='], .error "=="), (['!', '=', '='], .ok (.comparison .strictNotEqual)),
  (['!', '='], .ok (.comparison .notEqual)), (['!'], .ok .bang),
  (['>', '='], .ok (.comparison .greaterEqual)), (['>'], .ok (.comparison .greater)),
  (['<', '='], .ok (.comparison .lessEqual)), (['<'], .ok (.comparison .less)),
  (['&', '&'], .ok (.connective .and .symbol)), (['&'], .error "&&"),
  (['|', '|'], .ok (.connective .or .symbol)), (['|'], .error "||")]

/-- The longest operator or delimiter at the start of a text. -/
def scanSymbol? (cs : List Char) : Option (Except String Lexeme) :=
  (symbols.find? fun s => s.1.isPrefixOf cs).map fun s =>
    s.2.map fun token => ⟨token, s.1.length, cs.drop s.1.length⟩

/-! ## The first token -/

/-- The first token of a text that starts at `offset` with the character `c`, which is no blank. -/
def scan (offset : Nat) (c : Char) (rest : List Char) : Except LexError Lexeme :=
  match scanSymbol? (c :: rest) with
  | some (.ok lexeme) => .ok lexeme
  | some (.error suggestion) => .error (.incomplete c suggestion offset)
  | none =>
    if c = '\x22' ∨ c = '\x27' then scanString offset c rest
    else if Text.isWordStart c then .ok (scanWord (c :: rest))
    else if Number.isDigit c then scanNumber offset (c :: rest)
    else .error (.unexpectedChar c offset)

/-! ## Lengths -/

theorem scanWord_length {c : Char} {rest : List Char} (h : Text.isWordStart c = true) :
    (scanWord (c :: rest)).rest.length < (c :: rest).length := by
  have hc : Text.isWordChar c = true := Text.isWordChar_of_isWordStart h
  simp only [scanWord, List.dropWhile_cons, hc, if_true, List.length_cons]
  have := Text.dropWhile_length_le (p := Text.isWordChar) rest
  omega

theorem fraction_length (cs : List Char) : (fraction cs).2.length ≤ cs.length := by
  unfold fraction
  split
  · rename_i d rest
    split
    · have := Text.dropWhile_length_le (p := Number.isDigit) rest
      simp only [List.length_cons]
      omega
    · simp
  · simp

theorem scanNumber_length {offset : Nat} {c : Char} {rest : List Char} {l : Lexeme}
    (hc : Number.isDigit c = true) (h : scanNumber offset (c :: rest) = .ok l) :
    l.rest.length < (c :: rest).length := by
  have hlt : (fraction ((c :: rest).dropWhile Number.isDigit)).2.length < (c :: rest).length := by
    have h1 := fraction_length ((c :: rest).dropWhile Number.isDigit)
    have h2 := Text.dropWhile_length_le (p := Number.isDigit) rest
    simp only [List.dropWhile_cons, hc, if_true, List.length_cons] at h1 ⊢
    omega
  simp only [scanNumber] at h
  split at h
  · injection h with h
    subst h
    exact hlt
  · cases h

theorem stringBody_length {quote : Char} {start offset : Nat} {cs s rest : List Char} {stop : Nat}
    (h : stringBody quote start offset cs = .ok (s, stop, rest)) : rest.length < cs.length := by
  fun_induction stringBody quote start offset cs generalizing s stop rest with
  | case1 => cases h
  | case2 => cases h; simp
  | case3 => cases h
  | case4 => cases h; simp
  | case5 offset d rest' _ e he ih =>
    cases hb : stringBody quote start (offset + 2) rest' with
    | error e => rw [hb] at h; cases h
    | ok r =>
      rw [hb] at h
      obtain ⟨s', stop', r'⟩ := r
      cases h
      have := ih hb
      simp only [List.length_cons]
      omega
  | case6 => cases h
  | case7 offset c d rest' _ _ ih =>
    cases hb : stringBody quote start (offset + 1) (d :: rest') with
    | error e => rw [hb] at h; cases h
    | ok r =>
      rw [hb] at h
      obtain ⟨s', stop', r'⟩ := r
      cases h
      have := ih hb
      simp only [List.length_cons] at this ⊢
      omega

theorem scanString_length {offset : Nat} {quote : Char} {rest : List Char} {l : Lexeme}
    (h : scanString offset quote rest = .ok l) : l.rest.length < rest.length := by
  unfold scanString at h
  cases hb : stringBody quote offset (offset + 1) rest with
  | error e => rw [hb] at h; cases h
  | ok r =>
    obtain ⟨s, stop, r⟩ := r
    rw [hb] at h
    cases h
    exact stringBody_length hb

theorem scanSymbol_length {cs : List Char} {l : Lexeme} (h : scanSymbol? cs = some (.ok l)) :
    l.rest.length < cs.length := by
  obtain ⟨s, hs, hl⟩ := Option.map_eq_some_iff.1 h
  have hpos : ∀ s ∈ symbols, 0 < s.1.length := by decide
  have h1 := hpos s (List.mem_of_find?_eq_some hs)
  have hfront : s.1.isPrefixOf cs = true := by simpa using List.find?_some hs
  have h2 := (List.isPrefixOf_iff_prefix.1 hfront).length_le
  cases hs2 : s.2 with
  | error e => rw [hs2] at hl; cases hl
  | ok token =>
    rw [hs2] at hl
    cases hl
    simp only [List.length_drop]
    omega

theorem scan_length {offset : Nat} {c : Char} {rest : List Char} {l : Lexeme}
    (h : scan offset c rest = .ok l) : l.rest.length < (c :: rest).length := by
  unfold scan at h
  split at h
  · rename_i hs
    cases h
    exact scanSymbol_length hs
  · cases h
  · split at h
    · have := scanString_length h
      simp only [List.length_cons]
      omega
    · split at h
      · rename_i hw
        cases h
        exact scanWord_length hw
      · split at h
        · rename_i hd
          exact scanNumber_length hd h
        · cases h

/-! ## All tokens -/

/-- A token with the offsets of its first character and of the character behind it. -/
structure Placed where
  token : Token
  start : Nat
  stop : Nat

/-- Tokens of a text, and the error that ended them, if one did. -/
structure Lexed where
  placed : List Placed
  fault : Option LexError

namespace Lexed

def tokens (l : Lexed) : List Token :=
  l.placed.map (·.token)

end Lexed

/-- Tokens of a text that starts at `offset`. -/
def lexFrom (offset : Nat) (cs : List Char) : Lexed :=
  let start := offset + (cs.takeWhile Text.isBlank).length
  match _hcs : cs.dropWhile Text.isBlank with
  | [] => ⟨[], none⟩
  | c :: rest =>
    match _h : scan start c rest with
    | .error e => ⟨[], some e⟩
    | .ok l =>
      let tail := lexFrom (start + l.length) l.rest
      ⟨⟨l.token, start, start + l.length⟩ :: tail.placed, tail.fault⟩
termination_by cs.length
decreasing_by
  have h1 := scan_length _h
  have h2 := Text.dropWhile_length_le (p := Text.isBlank) cs
  rw [_hcs] at h2
  omega

def lex (source : List Char) : Lexed :=
  lexFrom 0 source

/-- All tokens of a text, or the error in it. -/
def tokenize (source : List Char) : Except LexError (List Token) :=
  let lexed := lex source
  match lexed.fault with
  | none => .ok lexed.tokens
  | some e => .error e

end RowQuery.Lambda
