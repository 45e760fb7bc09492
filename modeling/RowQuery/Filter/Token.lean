import RowQuery.Filter.Expr
import RowQuery.Number.Layout
import RowQuery.Number.Scan
import RowQuery.Text.Search

/-!
# Tokens of filters

A string stands between single quotes, and a single quote inside it is written twice. `tokenize` reads a
whole text or refuses it; offsets count characters.
-/

namespace RowQuery.Filter

/-- Written form of a string. -/
def quote (s : String) : String :=
  String.ofList ('\x27' :: Text.replaceChar '\x27' ['\x27', '\x27'] s.toList ++ ['\x27'])

inductive Token where
  | int (n : Int64)
  | float (x : Float)
  | str (s : String)
  | word (w : String)
  | lparen
  | rparen
  | comma
  | plus
  | minus
  | star
  | slash
  | percent
  deriving DecidableEq, Inhabited

namespace Token

/-- A token as error messages show it. -/
def shown : Token → String
  | int n => "number " ++ Number.intText n
  | float x => "number " ++ Number.Layout.tagged.write x
  | str s => "string " ++ quote s
  | word w => "'" ++ w ++ "'"
  | lparen => "'('"
  | rparen => "')'"
  | comma => "','"
  | plus => "'+'"
  | minus => "'-'"
  | star => "'*'"
  | slash => "'/'"
  | percent => "'%'"

def shownOrEnd : Option Token → String
  | some t => t.shown
  | none => "end of filter"

end Token

/-- What a filter's reader was waiting for. -/
inductive Expected where
  | closingParenthesis
  | operand
  | endOfFilter
  deriving DecidableEq, Repr, Inhabited

def Expected.message : Expected → String
  | closingParenthesis => "')'"
  | operand => "operand"
  | endOfFilter => "end of filter"

inductive ParseError where
  | unexpectedChar (c : Char) (offset : Nat)
  | unterminatedString (offset : Nat)
  | invalidNumber (text : String) (offset : Nat)
  /-- The token found, or the end of the filter. -/
  | unexpected (expected : Expected) (found : Option Token)
  /-- A function that the store does not know. -/
  | unknownFunction (name : String)
  deriving DecidableEq, Inhabited

def ParseError.message : ParseError → String
  | unexpectedChar c o => "unexpected character '" ++ c.toString ++ "' at offset " ++ o.repr
  | unterminatedString o => "unterminated string starting at offset " ++ o.repr
  | invalidNumber text o => "invalid number '" ++ text ++ "' at offset " ++ o.repr
  | unexpected expected found =>
    "expected " ++ expected.message ++ ", found " ++ Token.shownOrEnd found
  | unknownFunction name => "function " ++ name ++ "() is not part of the filter grammar"

/-! ## Scanners

Each scanner returns the characters it took and the text behind them. -/

/-- A token, the number of characters it takes, and the text behind it. -/
structure Lexeme where
  token : Token
  length : Nat
  rest : List Char

/-- The longest text that can belong to a number, whether it is a float, and what is behind it. A point
may stand once and in front of every exponent mark; a sign may stand behind an exponent mark. -/
def numeral (isFloat afterMark : Bool) : List Char → List Char × Bool × List Char
  | [] => ([], isFloat, [])
  | c :: rest =>
    let take := fun (r : List Char × Bool × List Char) => (c :: r.1, r.2)
    if Number.isDigit c then take (numeral isFloat false rest)
    else if c = '.' && !isFloat then take (numeral true false rest)
    else if c = 'e' || c = 'E' then take (numeral true true rest)
    else if afterMark && (c = '+' || c = '-') then take (numeral isFloat false rest)
    else ([], isFloat, c :: rest)

def scanNumber (offset : Nat) (cs : List Char) : Except ParseError Lexeme :=
  let (text, isFloat, rest) := numeral false false cs
  let token? :=
    if isFloat then (Number.float? text).map Token.float else (Number.int64? text).map Token.int
  match token? with
  | some token => .ok ⟨token, text.length, rest⟩
  | none => .error (.invalidNumber (String.ofList text) offset)

/-- Characters of a string behind its opening quote, the number of characters read with the closing
quote, and the text behind that; nothing if the string is not closed. -/
def stringBody? : List Char → Option (List Char × Nat × List Char)
  | [] => none
  | '\x27' :: '\x27' :: rest => (stringBody? rest).map fun (s, n, r) => ('\x27' :: s, n + 2, r)
  | c :: rest =>
    if c = '\x27' then some ([], 1, rest)
    else (stringBody? rest).map fun (s, n, r) => (c :: s, n + 1, r)

def symbol? : Char → Option Token
  | '(' => some .lparen
  | ')' => some .rparen
  | ',' => some .comma
  | '+' => some .plus
  | '-' => some .minus
  | '*' => some .star
  | '/' => some .slash
  | '%' => some .percent
  | _ => none

/-- The first token of a text that starts at `offset` with the character `c`, which is no blank. -/
def scan (offset : Nat) (c : Char) (rest : List Char) : Except ParseError Lexeme :=
  match symbol? c with
  | some token => .ok ⟨token, 1, rest⟩
  | none =>
    if c = '\x27' then
      match stringBody? rest with
      | some (s, n, r) => .ok ⟨.str (String.ofList s), n + 1, r⟩
      | none => .error (.unterminatedString offset)
    else if Number.isDigit c then scanNumber offset (c :: rest)
    else if Text.isWordStart c then
      let tail := rest.takeWhile Text.isWordChar
      .ok ⟨.word (String.ofList (c :: tail)), tail.length + 1, rest.dropWhile Text.isWordChar⟩
    else .error (.unexpectedChar c offset)

/-! ## Lengths -/

theorem numeral_length (isFloat afterMark : Bool) (cs : List Char) :
    (numeral isFloat afterMark cs).2.2.length ≤ cs.length := by
  induction cs generalizing isFloat afterMark with
  | nil => simp [numeral]
  | cons c rest ih =>
    unfold numeral
    simp only [List.length_cons]
    split
    · exact Nat.le_succ_of_le (ih _ _)
    · split
      · exact Nat.le_succ_of_le (ih _ _)
      · split
        · exact Nat.le_succ_of_le (ih _ _)
        · split
          · exact Nat.le_succ_of_le (ih _ _)
          · simp

theorem numeral_length_of_digit {c : Char} (hc : Number.isDigit c = true) (rest : List Char) :
    (numeral false false (c :: rest)).2.2.length < (c :: rest).length := by
  unfold numeral
  rw [if_pos hc]
  exact Nat.lt_succ_of_le (numeral_length _ _ _)

theorem stringBody_length {cs s rest : List Char} {n : Nat}
    (h : stringBody? cs = some (s, n, rest)) : rest.length < cs.length := by
  fun_induction stringBody? cs generalizing s n rest with
  | case1 => cases h
  | case2 rest' ih =>
    obtain ⟨⟨s', n', r'⟩, hr, heq⟩ := Option.map_eq_some_iff.1 h
    cases heq
    have := ih hr
    simp only [List.length_cons]
    omega
  | case3 => cases h; simp
  | case4 c rest' _ _ ih =>
    obtain ⟨⟨s', n', r'⟩, hr, heq⟩ := Option.map_eq_some_iff.1 h
    cases heq
    have := ih hr
    simp only [List.length_cons]
    omega

theorem scan_length {offset : Nat} {c : Char} {rest : List Char} {l : Lexeme}
    (h : scan offset c rest = .ok l) : l.rest.length < (c :: rest).length := by
  unfold scan at h
  split at h
  · cases h; simp
  · split at h
    · split at h
      · rename_i hs
        cases h
        have := stringBody_length hs
        simp only [List.length_cons]
        omega
      · cases h
    · split at h
      · rename_i hd
        have hlt := numeral_length_of_digit hd rest
        simp only [scanNumber] at h
        split at h
        · cases h; exact hlt
        · cases h
      · split at h
        · cases h
          have := Text.dropWhile_length_le (p := Text.isWordChar) rest
          simp only [List.length_cons]
          omega
        · cases h

/-! ## All tokens -/

/-- Tokens of a text that starts at `offset`. -/
def tokensFrom (offset : Nat) (cs : List Char) : Except ParseError (List Token) :=
  let start := offset + (cs.takeWhile Text.isBlank).length
  match _hcs : cs.dropWhile Text.isBlank with
  | [] => .ok []
  | c :: rest =>
    match _h : scan start c rest with
    | .error e => .error e
    | .ok l => (tokensFrom (start + l.length) l.rest).map (l.token :: ·)
termination_by cs.length
decreasing_by
  have h1 := scan_length _h
  have h2 := Text.dropWhile_length_le (p := Text.isBlank) cs
  rw [_hcs] at h2
  omega

def tokenize (text : String) : Except ParseError (List Token) :=
  tokensFrom 0 text.toList

end RowQuery.Filter
