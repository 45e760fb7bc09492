import RowQuery.Json.Basic
import RowQuery.Number.Scan
import RowQuery.Text.Hex
import RowQuery.Text.Search

/-!
# Tokens of JSON texts

Every scanner takes the text that is left and returns what it read with the text behind it, or nothing
where the text is not JSON.

A number without fraction and exponent is whole if it fits 64 bits, except that minus zero is a float.
Any other number is a significand of at most 64 bits times a power of ten, where digits that no longer
fit are passed over; both are floats and are multiplied or divided as such.
-/

namespace RowQuery.Json

inductive Token where
  | openArray
  | closeArray
  | openObject
  | closeObject
  | comma
  | colon
  | str (s : String)
  /-- A number, `true`, `false` or `null`. -/
  | scalar (j : Json)

/-! ## Numbers -/

/-- Appends digits to `n` as long as the number stays below 2^64, and counts them. -/
def appendDigits (n : Nat) : List Char → Nat × Nat
  | [] => (n, 0)
  | c :: rest =>
    let m := 10 * n + Number.digitsValue [c]
    if m < 2 ^ 64 then
      let (total, count) := appendDigits m rest
      (total, count + 1)
    else (n, 0)

/-- Greatest exponent of a power of ten among the floats. -/
def maxExponent : Nat := 308

def powerOfTen (n : Nat) : Float :=
  Number.ofDecimal false 1 n

/-- `x` times the `exp`-th power of ten, if that is finite. -/
def scale? (x : Float) (exp : Int) : Option Float :=
  if exp.natAbs ≤ maxExponent then
    if exp < 0 then some (x / powerOfTen exp.natAbs)
    else
      let y := x * powerOfTen exp.natAbs
      if Number.isFinite y then some y else none
  else if Number.isZero x then some x
  else if 0 ≤ exp then none
  else scale? (x / powerOfTen maxExponent) (exp + maxExponent)
termination_by exp.natAbs
decreasing_by
  simp only [maxExponent] at *
  omega

def signed (negative : Bool) (x : Float) : Float :=
  if negative then Number.neg x else x

/-- Float for the digits in front of and behind a point and an exponent. -/
def decimal? (negative : Bool) (whole fraction : List Char) (exp : Int) : Option Json :=
  let (n, taken) := appendDigits 0 whole
  let (n, places) := appendDigits n fraction
  (scale? (Number.ofNat n) (exp + (whole.length - taken : Nat) - places)).map fun x =>
    .float (signed negative x)

/-- Number for digits alone. -/
def whole? (negative : Bool) (digits : List Char) : Option Json :=
  let n := Number.digitsValue digits
  if 2 ^ 64 ≤ n then decimal? negative digits [] 0
  else if !negative then some (.int n)
  else if 0 < n ∧ n ≤ 2 ^ 63 then some (.int (-n))
  else some (.float (signed true (Number.ofNat n)))

/-- Digits behind a point, of which there must be one; none without a point. -/
def scanFraction? : List Char → Option (Option (List Char) × List Char)
  | '.' :: rest =>
    let digits := rest.takeWhile Number.isDigit
    if digits.isEmpty then none else some (some digits, rest.dropWhile Number.isDigit)
  | cs => some (none, cs)

/-- An exponent; none without its mark. -/
def scanExponent? : List Char → Option (Option Int × List Char)
  | [] => some (none, [])
  | c :: rest =>
    if c = 'e' ∨ c = 'E' then
      let (negative, rest) := Number.splitSign rest
      let digits := rest.takeWhile Number.isDigit
      let n : Int := Number.digitsValue digits
      if digits.isEmpty then none
      else some (some (if negative then -n else n), rest.dropWhile Number.isDigit)
    else some (none, c :: rest)

/-- A number behind its sign. No digit may follow a leading zero. -/
def scanNumber? (negative : Bool) (cs : List Char) : Option (Json × List Char) := do
  let digits := cs.takeWhile Number.isDigit
  if digits.isEmpty || (digits.head? = some '0' && digits.length != 1) then none
  else
    let (fraction, rest) ← scanFraction? (cs.dropWhile Number.isDigit)
    let (exponent, rest) ← scanExponent? rest
    let number ←
      if fraction.isNone && exponent.isNone then whole? negative digits
      else decimal? negative digits (fraction.getD []) (exponent.getD 0)
    return (number, rest)

/-! ## Strings -/

/-- Character for the letter of a short escape. -/
def shortEscape? : Char → Option Char
  | '\x22' => some '\x22'
  | '\\' => some '\\'
  | '/' => some '/'
  | 'b' => some '\x08'
  | 'f' => some '\x0c'
  | 'n' => some '\n'
  | 'r' => some '\r'
  | 't' => some '\t'
  | _ => none

/-- Four hexadecimal digits. -/
def hexUnit? : List Char → Option (Nat × List Char)
  | a :: b :: c :: d :: rest => do
    let a ← Text.hexDigit? a
    let b ← Text.hexDigit? b
    let c ← Text.hexDigit? c
    let d ← Text.hexDigit? d
    return (((a * 16 + b) * 16 + c) * 16 + d, rest)
  | _ => none

def isHighSurrogate (n : Nat) : Bool :=
  0xD800 ≤ n && n ≤ 0xDBFF

def isLowSurrogate (n : Nat) : Bool :=
  0xDC00 ≤ n && n ≤ 0xDFFF

/-- Character that a pair of surrogates stands for. -/
def pairedChar (high low : Nat) : Char :=
  Char.ofNat (0x10000 + (high - 0xD800) * 0x400 + (low - 0xDC00))

/-- Character for an escape behind its backslash. Surrogates come in pairs. -/
def unescape? : List Char → Option (Char × List Char)
  | [] => none
  | c :: rest =>
    if c = 'u' then do
      let (n, rest) ← hexUnit? rest
      if isHighSurrogate n then
        match rest with
        | '\\' :: 'u' :: rest => do
          let (m, rest) ← hexUnit? rest
          if isLowSurrogate m then return (pairedChar n m, rest) else none
        | _ => none
      else if isLowSurrogate n then none
      else return (Char.ofNat n, rest)
    else (shortEscape? c).map fun e => (e, rest)

theorem hexUnit_length {cs rest : List Char} {n : Nat} (h : hexUnit? cs = some (n, rest)) :
    rest.length < cs.length := by
  unfold hexUnit? at h
  split at h
  · simp only [Option.bind_eq_bind, Option.bind_eq_some_iff, Option.pure_def,
      Option.some.injEq, Prod.mk.injEq] at h
    obtain ⟨_, _, _, _, _, _, _, _, _, rfl⟩ := h
    simp only [List.length_cons]
    omega
  · cases h

theorem unescape_length {cs rest : List Char} {c : Char} (h : unescape? cs = some (c, rest)) :
    rest.length < cs.length := by
  unfold unescape? at h
  split at h
  · cases h
  · rename_i c' rest'
    split at h
    · simp only [Option.bind_eq_bind, Option.bind_eq_some_iff] at h
      obtain ⟨⟨n, r⟩, hn, h⟩ := h
      have hlt := hexUnit_length hn
      simp only at h
      split at h
      · split at h
        · rename_i r'
          simp only [Option.bind_eq_some_iff] at h
          obtain ⟨⟨m, r''⟩, hm, h⟩ := h
          have hlt' := hexUnit_length hm
          simp only at h
          split at h
          · simp only [Option.pure_def, Option.some.injEq, Prod.mk.injEq] at h
            obtain ⟨_, rfl⟩ := h
            simp only [List.length_cons] at hlt ⊢
            omega
          · cases h
        · cases h
      · split at h
        · cases h
        · simp only [Option.pure_def, Option.some.injEq, Prod.mk.injEq] at h
          obtain ⟨_, rfl⟩ := h
          simp only [List.length_cons]
          omega
    · obtain ⟨e, _, heq⟩ := Option.map_eq_some_iff.1 h
      cases heq
      simp

/-- Characters of a string up to its closing quote; controls must be escaped. -/
def stringBody? (cs : List Char) : Option (List Char × List Char) :=
  match cs with
  | [] => none
  | c :: rest =>
    if c = '\x22' then some ([], rest)
    else if c = '\\' then
      match _h : unescape? rest with
      | none => none
      | some (e, rest) => (stringBody? rest).map fun (s, r) => (e :: s, r)
    else if c.toNat < 0x20 then none
    else (stringBody? rest).map fun (s, r) => (c :: s, r)
termination_by cs.length
decreasing_by
  · have := unescape_length _h
    simp only [List.length_cons]
    omega
  · simp

theorem stringBody_length {cs s rest : List Char} (h : stringBody? cs = some (s, rest)) :
    rest.length < cs.length := by
  fun_induction stringBody? cs generalizing s rest with
  | case1 => cases h
  | case2 => cases h; simp
  | case3 => cases h
  | case4 rest' e r hu _ ih =>
    obtain ⟨⟨s', r'⟩, hr, heq⟩ := Option.map_eq_some_iff.1 h
    cases heq
    have := ih hr
    have := unescape_length hu
    simp only [List.length_cons]
    omega
  | case5 => cases h
  | case6 c rest' _ _ _ ih =>
    obtain ⟨⟨s', r'⟩, hr, heq⟩ := Option.map_eq_some_iff.1 h
    cases heq
    have := ih hr
    simp only [List.length_cons]
    omega

/-! ## Tokens -/

def isBlank (c : Char) : Bool :=
  c = ' ' || c = '\t' || c = '\n' || c = '\r'

/-- The token at the start of a text. -/
def scan? : List Char → Option (Token × List Char)
  | '[' :: rest => some (.openArray, rest)
  | ']' :: rest => some (.closeArray, rest)
  | '\x7b' :: rest => some (.openObject, rest)
  | '\x7d' :: rest => some (.closeObject, rest)
  | ',' :: rest => some (.comma, rest)
  | ':' :: rest => some (.colon, rest)
  | '\x22' :: rest => (stringBody? rest).map fun (s, r) => (.str (String.ofList s), r)
  | 't' :: 'r' :: 'u' :: 'e' :: rest => some (.scalar (.bool true), rest)
  | 'f' :: 'a' :: 'l' :: 's' :: 'e' :: rest => some (.scalar (.bool false), rest)
  | 'n' :: 'u' :: 'l' :: 'l' :: rest => some (.scalar .null, rest)
  | '-' :: rest => (scanNumber? true rest).map fun (n, r) => (.scalar n, r)
  | cs => (scanNumber? false cs).map fun (n, r) => (.scalar n, r)

end RowQuery.Json
