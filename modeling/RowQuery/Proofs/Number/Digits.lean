import Mathlib
import RowQuery.Number.Scan

/-!
# Numbers as they are written

`int64?` reads the digits of a natural that fits (`int64_toDigits`), and `float?` reads a decimal put
together from its parts as the decimal that the parts spell (`float_text`).
-/

namespace RowQuery.Number

/-! ## Digits -/

theorem isDigit_of_isDigit {c : Char} (h : c.isDigit = true) : isDigit c = true := by
  rw [Char.isDigit_iff_toNat] at h
  simp only [isDigit, Bool.and_eq_true, decide_eq_true_eq]
  exact h

theorem isDigit_of_mem_toDigits {n : Nat} {c : Char} (h : c ∈ Nat.toDigits 10 n) :
    isDigit c = true :=
  isDigit_of_isDigit (Nat.isDigit_of_mem_toDigits (by decide) (by decide) h)

theorem digitsValue_eq (digits : List Char) : digitsValue digits = Nat.ofDigitChars 10 digits 0 := rfl

@[simp] theorem digitsValue_toDigits (n : Nat) : digitsValue (Nat.toDigits 10 n) = n :=
  Nat.ofDigitChars_ten_toDigits

theorem digitsValue_append_zeros (digits : List Char) (n : Nat) :
    digitsValue (digits ++ List.replicate n '0') = digitsValue digits * 10 ^ n := by
  rw [digitsValue_eq, digitsValue_eq, Nat.ofDigitChars_append, Nat.ofDigitChars_replicate_zero,
    Nat.mul_comm]

theorem digitsValue_zeros_append (digits : List Char) (n : Nat) :
    digitsValue (List.replicate n '0' ++ digits) = digitsValue digits := by
  rw [digitsValue_eq, digitsValue_eq, Nat.ofDigitChars_append, Nat.ofDigitChars_replicate_zero,
    Nat.mul_zero]

/-- Characters of one kind end where something else begins. -/
theorem takeWhile_of_head {p : Char → Bool} {cs rest : List Char} (hcs : ∀ c ∈ cs, p c = true)
    (hrest : ∀ c ∈ rest.head?, p c = false) :
    (cs ++ rest).takeWhile p = cs ∧ (cs ++ rest).dropWhile p = rest := by
  rw [List.takeWhile_append_of_pos hcs, List.dropWhile_append_of_pos hcs]
  cases rest with
  | nil => simp
  | cons c rest => simp [hrest c rfl]

theorem splitSign_digit {c : Char} {rest : List Char} (h : isDigit c = true) :
    splitSign (c :: rest) = (false, c :: rest) := by
  unfold splitSign
  split
  next heq => cases heq; exact absurd h (by decide)
  next heq => cases heq; exact absurd h (by decide)
  next => rfl

theorem splitSign_digits {digits : List Char} (hne : digits ≠ [])
    (hd : ∀ d ∈ digits, isDigit d = true) (rest : List Char) :
    splitSign (digits ++ rest) = (false, digits ++ rest) := by
  obtain ⟨c, digits, rfl⟩ := List.exists_cons_of_ne_nil hne
  exact splitSign_digit (hd c List.mem_cons_self)

theorem splitSign_sign (negative : Bool) {digits : List Char} (hne : digits ≠ [])
    (hd : ∀ d ∈ digits, isDigit d = true) (rest : List Char) :
    splitSign ((if negative then ['-'] else []) ++ (digits ++ rest)) = (negative, digits ++ rest) := by
  cases negative with
  | true => rfl
  | false => exact splitSign_digits hne hd rest

/-! ## Integers -/

theorem int64_digits {digits : List Char} (hne : digits ≠ [])
    (hd : ∀ d ∈ digits, isDigit d = true) :
    int64? digits = int64OfInt? (digitsValue digits) := by
  have hsign := splitSign_digits hne hd []
  rw [List.append_nil] at hsign
  have hall : digits.all isDigit = true := List.all_eq_true.mpr hd
  have hempty : digits.isEmpty = false := by simpa using hne
  simp only [int64?, hsign, hall, hempty, Bool.not_true, Bool.or_self, Bool.false_eq_true, if_false]

theorem int64OfInt_toInt (n : Int64) : int64OfInt? n.toInt = some n := by
  have hle := n.le_toInt
  have hlt := n.toInt_lt
  have hfits : fitsInt64 n.toInt = true :=
    Bool.and_eq_true_iff.mpr ⟨decide_eq_true hle, decide_eq_true hlt⟩
  rw [int64OfInt?, if_pos hfits, Int64.ofInt_toInt]

theorem int64_toDigits {n : Int64} (h : 0 ≤ n.toInt) :
    int64? (Nat.toDigits 10 n.toInt.natAbs) = some n := by
  rw [int64_digits Nat.toDigits_ne_nil fun _ => isDigit_of_mem_toDigits, digitsValue_toDigits,
    Int.natAbs_of_nonneg h, int64OfInt_toInt]

theorem intText_of_nonneg {n : Int64} (h : 0 ≤ n.toInt) :
    (intText n).toList = Nat.toDigits 10 n.toInt.natAbs := by
  rw [intText, if_neg (by omega), String.toList_ofList, List.nil_append]

theorem toInt_nonneg_of_int64 {digits : List Char} {n : Int64} (hne : digits ≠ [])
    (hd : ∀ d ∈ digits, isDigit d = true) (h : int64? digits = some n) : 0 ≤ n.toInt := by
  rw [int64_digits hne hd, int64OfInt?] at h
  split at h
  next hfits =>
    cases h
    simp only [fitsInt64, Bool.and_eq_true, decide_eq_true_eq] at hfits
    rw [Int64.toInt_ofInt_of_le hfits.1 hfits.2]
    exact Int.natCast_nonneg _
  next => cases h

/-! ## Decimals -/

/-- A decimal in parts. -/
structure Written where
  whole : List Char
  fraction : List Char
  /-- Digits of the exponent, and whether it is negative. -/
  exponent : Option (Bool × List Char)

namespace Written

variable {w : Written}

/-- The mark, the sign and the digits of an exponent. -/
def exponentText : Option (Bool × List Char) → List Char
  | none => []
  | some (negative, digits) => 'e' :: ((if negative then ['-'] else []) ++ digits)

def point (w : Written) : List Char :=
  if w.fraction.isEmpty then [] else '.' :: w.fraction

def text (w : Written) : List Char :=
  w.whole ++ (w.point ++ exponentText w.exponent)

def exponentValue : Option (Bool × List Char) → Int
  | none => 0
  | some (negative, digits) => if negative then -(digitsValue digits : Int) else digitsValue digits

def coef (w : Written) : Nat :=
  digitsValue (w.whole ++ w.fraction)

def exp (w : Written) : Int :=
  exponentValue w.exponent - w.fraction.length

/-- All parts are digits, and a digit stands in front of the point. -/
structure Valid (w : Written) : Prop where
  whole_ne : w.whole ≠ []
  whole : ∀ d ∈ w.whole, isDigit d = true
  fraction : ∀ d ∈ w.fraction, isDigit d = true
  exponent : ∀ negative digits, w.exponent = some (negative, digits) →
    digits ≠ [] ∧ ∀ d ∈ digits, isDigit d = true

theorem exponentText_head (e : Option (Bool × List Char)) :
    ∀ c ∈ (exponentText e).head?, isDigit c = false := by
  intro c hc
  cases e with
  | none => cases hc
  | some e => cases hc; decide

theorem point_append_head (w : Written) :
    ∀ c ∈ (w.point ++ exponentText w.exponent).head?, isDigit c = false := by
  intro c hc
  unfold point at hc
  split at hc
  next => exact exponentText_head _ c hc
  next => cases hc; decide

theorem exponent_text (h : w.Valid) :
    exponent? (exponentText w.exponent) = some (exponentValue w.exponent) := by
  rcases he : w.exponent with _ | ⟨negative, digits⟩
  · rfl
  · obtain ⟨hne, hd⟩ := h.exponent negative digits he
    have hsign : splitSign ((if negative then ['-'] else []) ++ digits) = (negative, digits) := by
      simpa using splitSign_sign negative hne hd []
    have hall : digits.all isDigit = true := List.all_eq_true.mpr hd
    have hempty : digits.isEmpty = false := by simpa using hne
    simp only [exponentText, exponent?, hsign, hall, hempty]
    rfl

/-- A decimal in parts reads as the decimal that the parts spell. -/
theorem decimal_text (h : w.Valid) (negative : Bool) :
    decimal? negative w.text = some (ofDecimal negative w.coef w.exp) := by
  obtain ⟨htake, hdrop⟩ := takeWhile_of_head h.whole (point_append_head w)
  have hwhole : w.whole.isEmpty = false := by simpa using h.whole_ne
  have hexp := exponent_text h
  unfold decimal?
  simp only [text, htake, hdrop, hwhole, Bool.false_and, Bool.false_eq_true, if_false]
  by_cases hf : w.fraction = []
  · have hpoint : w.point = [] := by simp [point, hf]
    have hnodot : ∀ tail, exponentText w.exponent ≠ '.' :: tail := by
      intro tail
      rcases w.exponent with _ | e
      · rintro ⟨⟩
      · rintro ⟨⟩
    rw [hpoint, List.nil_append]
    split
    next tail htail => exact absurd htail (hnodot tail)
    next =>
      rw [hexp]
      simp only [Option.map_some, coef, exp, hf]
  · have hpoint : w.point = '.' :: w.fraction := by simp [point, hf]
    obtain ⟨htake', hdrop'⟩ := takeWhile_of_head h.fraction (exponentText_head w.exponent)
    rw [hpoint, List.cons_append]
    simp only [htake', hdrop', hexp, Option.map_some, coef, exp]

/-- **Reading a decimal in parts.** -/
theorem float_text (h : w.Valid) : float? w.text = some (ofDecimal false w.coef w.exp) := by
  have hsign : splitSign w.text = (false, w.text) := splitSign_digits h.whole_ne h.whole _
  simp only [float?, hsign, decimal_text h]

end Written

end RowQuery.Number
