import RowQuery.Text.Property

/-!
# Names in texts, trimming and searching
-/

namespace RowQuery.Text

/-- Whether a name may start with a character. -/
def isWordStart (c : Char) : Bool :=
  isAlphabetic c || c = '_'

/-- Whether a name may have a character behind its first. -/
def isWordChar (c : Char) : Bool :=
  isAlphanumeric c || c = '_'

def trimStart (cs : List Char) : List Char :=
  cs.dropWhile isBlank

/-- Text without the blanks at its two ends. -/
def trim (cs : List Char) : List Char :=
  (trimStart (trimStart cs).reverse).reverse

def trimString (s : String) : String :=
  String.ofList (trim s.toList)

/-- Whether `part` occurs in a text. -/
def occursIn (part : List Char) : List Char → Bool
  | [] => part.isEmpty
  | c :: rest => part.isPrefixOf (c :: rest) || occursIn part rest

/-- Text behind the first occurrence of `mark`. -/
def after? (mark : List Char) : List Char → Option (List Char)
  | [] => if mark.isEmpty then some [] else none
  | c :: rest =>
    if mark.isPrefixOf (c :: rest) then some ((c :: rest).drop mark.length) else after? mark rest

/-- A text in which `new` stands for every `old`. -/
def replaceChar (old : Char) (new : List Char) (cs : List Char) : List Char :=
  cs.flatMap fun c => if c = old then new else [c]

/-- Texts joined with `separator` between them. -/
def joinWith (separator : String) : List String → String
  | [] => ""
  | [s] => s
  | s :: rest => s ++ separator ++ joinWith separator rest

theorem isWordChar_of_isWordStart {c : Char} (h : isWordStart c = true) : isWordChar c = true := by
  simp only [isWordStart, isWordChar, isAlphanumeric, Bool.or_eq_true] at h ⊢
  rcases h with h | h
  · exact .inl (.inl h)
  · exact .inr h

/-- A blank ends a name. -/
theorem isWordChar_of_isBlank {c : Char} (h : isBlank c = true) : isWordChar c = false := by
  by_cases hc : c.toNat < 128
  · have hascii : ∀ n < 128, isBlank (Char.ofNat n) = true → isWordChar (Char.ofNat n) = false := by
      decide
    simpa [h] using hascii c.toNat hc
  · have hne : c ≠ '_' := by rintro rfl; exact hc (by decide)
    simp [isWordChar, isAlphanumeric, isAlphabetic, isNumeric, hc, h, hne]

theorem dropWhile_length_le {p : Char → Bool} (cs : List Char) :
    (cs.dropWhile p).length ≤ cs.length :=
  (List.dropWhile_suffix p).length_le

end RowQuery.Text
