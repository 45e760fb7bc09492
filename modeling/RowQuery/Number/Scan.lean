import RowQuery.Number.Binary64

/-!
# Numbers in text

`int64?` and `float?` read a whole text as a number, or refuse it.
-/

namespace RowQuery.Number

def isDigit (c : Char) : Bool :=
  '0' ≤ c && c ≤ '9'

/-- Number written by decimal digits. -/
def digitsValue (digits : List Char) : Nat :=
  digits.foldl (fun n d => 10 * n + (d.toNat - '0'.toNat)) 0

/-- A leading sign, and the text behind it. -/
def splitSign : List Char → Bool × List Char
  | '-' :: rest => (true, rest)
  | '+' :: rest => (false, rest)
  | rest => (false, rest)

/-- Whether an integer fits 64 bits. -/
def fitsInt64 (n : Int) : Bool :=
  -2 ^ 63 ≤ n && n < 2 ^ 63

def int64OfInt? (n : Int) : Option Int64 :=
  if fitsInt64 n then some (Int64.ofInt n) else none

/-- A decimal integer with an optional sign. -/
def int64? (text : List Char) : Option Int64 :=
  let (negative, digits) := splitSign text
  if digits.isEmpty || !digits.all isDigit then none
  else
    let n : Int := digitsValue digits
    int64OfInt? (if negative then -n else n)

/-- Decimal exponent behind a mantissa: nothing, or `e` and a signed number. -/
def exponent? : List Char → Option Int
  | [] => some 0
  | e :: rest =>
    let (negative, digits) := splitSign rest
    if (e = 'e' || e = 'E') && !digits.isEmpty && digits.all isDigit then
      let n : Int := digitsValue digits
      some (if negative then -n else n)
    else none

/-- A mantissa with at least one digit, and an optional exponent. -/
def decimal? (negative : Bool) (text : List Char) : Option Float :=
  let whole := text.takeWhile isDigit
  let rest := text.dropWhile isDigit
  let (fraction, rest) :=
    match rest with
    | '.' :: tail => (tail.takeWhile isDigit, tail.dropWhile isDigit)
    | _ => ([], rest)
  if whole.isEmpty && fraction.isEmpty then none
  else (exponent? rest).map fun e =>
    ofDecimal negative (digitsValue (whole ++ fraction)) (e - fraction.length)

/-- A decimal number, an infinity or NaN, with an optional sign; the words in any case. -/
def float? (text : List Char) : Option Float :=
  let (negative, rest) := splitSign text
  match decimal? negative rest with
  | some x => some x
  | none =>
    let word := String.ofList (rest.map Char.toLower)
    if word = "inf" || word = "infinity" then some (infinity negative)
    else if word = "nan" then some nan
    else none

/-- Decimal text of an integer. -/
def intText (n : Int64) : String :=
  let i := n.toInt
  String.ofList ((if i < 0 then ['-'] else []) ++ Nat.toDigits 10 i.natAbs)

end RowQuery.Number
