import RowQuery.Number.Scan
import RowQuery.Text.Hex
import RowQuery.Toml.Basic

/-!
# Unquoted scalars

Booleans, integers, floats, dates and times. Each reader takes the whole text of a scalar. Underscores
may stand between digits; an integer has to fit 128 bits and a float has to be finite, unless it is
written as a word.
-/

namespace RowQuery.Toml

/-! ## Numbers -/

/-- Digits of a text in which single underscores may stand between digits. -/
def ungroup? (isDigit : Char → Bool) : List Char → Option (List Char)
  | [] => none
  | [c] => if isDigit c then some [c] else none
  | c :: '_' :: d :: rest =>
    if isDigit c && isDigit d then (ungroup? isDigit (d :: rest)).map (c :: ·) else none
  | c :: d :: rest => if isDigit c then (ungroup? isDigit (d :: rest)).map (c :: ·) else none

/-- Decimal digits without a leading zero. -/
def decimalDigits? (cs : List Char) : Option (List Char) :=
  match ungroup? Number.isDigit cs with
  | some ['0'] => some ['0']
  | some ('0' :: _) => none
  | digits => digits

def inRange (n : Int) : Bool :=
  -2 ^ 127 ≤ n && n < 2 ^ 128

def signedInt? (negative : Bool) (n : Nat) : Option Toml :=
  let n : Int := if negative then -n else n
  if inRange n then some (.int n) else none

/-- Whether a character is a digit to a base up to 16. -/
def isDigitOf (base : Nat) (c : Char) : Bool :=
  (Text.hexDigit? c).any (· < base)

def basedInt? (base : Nat) (cs : List Char) : Option Toml := do
  let digits ← ungroup? (isDigitOf base) cs
  signedInt? false ((digits.filterMap Text.hexDigit?).foldl (fun n d => base * n + d) 0)

def int? : List Char → Option Toml
  | '0' :: 'x' :: rest => basedInt? 16 rest
  | '0' :: 'o' :: rest => basedInt? 8 rest
  | '0' :: 'b' :: rest => basedInt? 2 rest
  | cs => do
    let (negative, rest) := Number.splitSign cs
    signedInt? negative (Number.digitsValue (← decimalDigits? rest))

/-- An exponent behind its mark. -/
def exponentDigits? (cs : List Char) : Option (List Char) := do
  let (negative, rest) := Number.splitSign cs
  let digits ← ungroup? Number.isDigit rest
  return if negative then '-' :: digits else digits

def isExponentMark (c : Char) : Bool :=
  c = 'e' || c = 'E'

/-- Text of a float without its underscores: a whole part, and a fraction or an exponent or both. -/
def floatDigits? (cs : List Char) : Option (List Char) := do
  let mantissa := cs.takeWhile (!isExponentMark ·)
  let whole := mantissa.takeWhile (· ≠ '.')
  let digits ← decimalDigits? whole
  let fraction ←
    match mantissa.dropWhile (· ≠ '.') with
    | '.' :: rest => (ungroup? Number.isDigit rest).map ('.' :: ·)
    | _ => some []
  let exponent ←
    match cs.dropWhile (!isExponentMark ·) with
    | _ :: rest => (exponentDigits? rest).map ('e' :: ·)
    | [] => some []
  if fraction.isEmpty && exponent.isEmpty then none else some (digits ++ fraction ++ exponent)

def float? (cs : List Char) : Option Toml := do
  let (negative, rest) := Number.splitSign cs
  if rest = ['i', 'n', 'f'] then some (.float (Number.infinity negative))
  else if rest = ['n', 'a', 'n'] then some (.float Number.nan)
  else
    let x ← Number.decimal? negative (← floatDigits? rest)
    if Number.isFinite x then some (.float x) else none

/-! ## Dates and times

Each reader takes the start of a text and returns what is behind it. -/

/-- A number of `count` digits. -/
def fixedDigits? : (count : Nat) → (acc : Nat) → List Char → Option (Nat × List Char)
  | 0, acc, cs => some (acc, cs)
  | count + 1, acc, c :: rest =>
    if Number.isDigit c then fixedDigits? count (10 * acc + Number.digitsValue [c]) rest else none
  | _ + 1, _, [] => none

/-- A number of two digits that is not above a bound. -/
def pair? (bound : Nat) (cs : List Char) : Option (Nat × List Char) := do
  let (n, rest) ← fixedDigits? 2 0 cs
  if n ≤ bound then some (n, rest) else none

/-- What is behind a mark. -/
def behind? (mark : Char) : List Char → Option (List Char)
  | c :: rest => if c = mark then some rest else none
  | [] => none

def isLeapYear (year : Nat) : Bool :=
  year % 4 = 0 && (year % 100 ≠ 0 || year % 400 = 0)

def daysOfMonth (year month : Nat) : Nat :=
  if month = 2 then if isLeapYear year then 29 else 28
  else if month = 4 ∨ month = 6 ∨ month = 9 ∨ month = 11 then 30
  else 31

def skipDate? (cs : List Char) : Option (List Char) := do
  let (year, cs) ← fixedDigits? 4 0 cs
  let (month, cs) ← pair? 12 (← behind? '-' cs)
  let (day, cs) ← pair? (daysOfMonth year month) (← behind? '-' cs)
  if month = 0 || day = 0 then none else some cs

/-- Seconds and their fraction, which may be missing. -/
def skipSeconds? (cs : List Char) : Option (List Char) :=
  match cs with
  | ':' :: rest => do
    let (_, rest) ← pair? 60 rest
    match rest with
    | '.' :: d :: rest =>
      if Number.isDigit d then some (rest.dropWhile Number.isDigit) else none
    | rest => some rest
  | cs => some cs

def skipTime? (cs : List Char) : Option (List Char) := do
  let (_, cs) ← pair? 23 cs
  let (_, cs) ← pair? 59 (← behind? ':' cs)
  skipSeconds? cs

/-- Offset from universal time, which may be missing. -/
def skipOffset? : List Char → Option (List Char)
  | [] => some []
  | c :: rest =>
    if c = 'Z' ∨ c = 'z' then some rest
    else if c = '+' ∨ c = '-' then do
      let (_, rest) ← pair? 23 rest
      let (_, rest) ← pair? 59 (← behind? ':' rest)
      return rest
    else none

def isDateTimeMark (c : Char) : Bool :=
  c = 'T' || c = 't' || c = ' '

def isDatetime (cs : List Char) : Bool :=
  match skipDate? cs with
  | some [] => true
  | some (c :: rest) => isDateTimeMark c && ((skipTime? rest).bind skipOffset?) = some []
  | none => skipTime? cs = some []

/-! ## Any scalar -/

def scalar? (cs : List Char) : Option Toml :=
  if cs = ['t', 'r', 'u', 'e'] then some (.bool true)
  else if cs = ['f', 'a', 'l', 's', 'e'] then some (.bool false)
  else if isDatetime cs then some (.datetime (String.ofList cs))
  else (int? cs).or (float? cs)

def isScalarChar (c : Char) : Bool :=
  c.isAlphanum || c = '_' || c = '+' || c = '-' || c = '.' || c = ':'

/-- Text of a scalar at the start of a text, and what is behind it. One space may stand between a date
and a time. -/
def scalarText (cs : List Char) : List Char × List Char :=
  let word := cs.takeWhile isScalarChar
  match skipDate? word, cs.dropWhile isScalarChar with
  | some [], ' ' :: d :: rest =>
    if Number.isDigit d then
      (word ++ ' ' :: d :: rest.takeWhile isScalarChar, rest.dropWhile isScalarChar)
    else (word, ' ' :: d :: rest)
  | _, rest => (word, rest)

end RowQuery.Toml
