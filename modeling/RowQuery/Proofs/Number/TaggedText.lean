import RowQuery.Proofs.Number.Addition
import RowQuery.Proofs.Number.ReadBack

/-!
# Texts of numbers

Every float reads back from its tagged text, infinities and NaN as well, and every integer from its digits
(`float?_tagged`, `int64?_intText`). No text is both.
-/

namespace RowQuery.Number

open Float.Model (Format)

variable {x : Float} {negative : Bool} {c : Char} {cs : List Char}

/-- A decimal that shows it is no integer has a character that is no digit. -/
theorem Layout.marked.exists_not_digit {w : Written} (h : Layout.marked w) : ∃ c ∈ w.text, isDigit c = false := by
  rcases h with hfraction | hexponent
  · refine ⟨'.', ?_, by decide⟩
    simp [Written.text, Written.point, hfraction]
  · obtain ⟨e, he⟩ := Option.ne_none_iff_exists'.mp hexponent
    refine ⟨'e', ?_, by decide⟩
    simp [Written.text, Written.exponentText, he]

/-! ## Floats without a value -/

theorem eq_infinity (h : decode x = .infinite negative) : x = infinity negative := by
  have hlt : x.toBits.toNat < 2 ^ 64 := x.toBits.toNat_lt
  have hinfinity : infinityBits = 2047 * 2 ^ 52 := rfl
  apply eq_ofMagnitude
  simp only [decode] at h
  split at h
  next hlast =>
    split at h
    next hzero =>
      cases h
      simp only [signBit, decide_eq_true_eq]
      split <;> omega
    next => cases h
  next => split at h <;> cases h

/-- There is one NaN. -/
theorem eq_nan (h : decode x = .nan) : x = nan := by
  obtain ⟨b, hb⟩ : ∃ b : BitVec 64, x.toModel.toBits.toBitVec = b := ⟨_, rfl⟩
  have hbits : x.toBits.toNat = b.toNat := by rw [← hb]; rfl
  have hvalid : Format.binary64.Valid b := hb ▸ x.toModel.valid
  rw [decode_eq hbits] at h
  split at h
  next hlast =>
    split at h
    next => cases h
    next hfraction =>
      have hnan := hvalid.eq_packedNaN (BitVec.eq_of_toNat_eq hlast) fun hzero =>
        hfraction (congrArg BitVec.toNat hzero)
      apply eq_ofMagnitude
      rw [hbits, hnan]
      rfl
  next => split at h <;> cases h

/-! ## Integers -/

theorem int64?_eq_none (hc : c ∈ (splitSign cs).2) (hdigit : isDigit c = false) : int64? cs = none := by
  have hall : (splitSign cs).2.all isDigit = false :=
    List.all_eq_false.mpr ⟨c, hc, by rw [hdigit]; exact Bool.false_ne_true⟩
  simp only [int64?, hall, Bool.not_false, Bool.or_true, if_true]

/-- **The text of an integer reads back.** -/
theorem int64?_intText (n : Int64) : int64? (intText n).toList = some n := by
  rcases Int.lt_or_le n.toInt 0 with hneg | hpos
  · have htext : (intText n).toList = '-' :: Nat.toDigits 10 n.toInt.natAbs := by
      rw [intText, if_pos hneg, String.toList_ofList]
      rfl
    have hall : (Nat.toDigits 10 n.toInt.natAbs).all isDigit = true :=
      List.all_eq_true.mpr fun _ => isDigit_of_mem_toDigits
    have hempty : (Nat.toDigits 10 n.toInt.natAbs).isEmpty = false := by simp [Nat.toDigits_ne_nil]
    have hvalue : (-(n.toInt.natAbs : Int)) = n.toInt := by omega
    rw [htext]
    simp only [int64?, splitSign, hall, hempty, Bool.not_true, Bool.or_self, Bool.false_eq_true, if_false,
      if_true, digitsValue_toDigits, hvalue, int64OfInt_toInt]
  · rw [intText_of_nonneg hpos, int64_toDigits hpos]

/-! ## Floats -/

/-- **The tagged text of a float reads back**, and is no text of an integer. -/
theorem float?_tagged (x : Float) :
    float? (Layout.tagged.chars x) = some x ∧ int64? (Layout.tagged.chars x) = none := by
  cases hx : decode x with
  | nan =>
    rw [eq_nan hx]
    exact ⟨rfl, rfl⟩
  | infinite negative =>
    rw [eq_infinity hx]
    cases negative <;> exact ⟨rfl, rfl⟩
  | finite negative coef exp =>
    obtain ⟨w, hvalid, hmarked, htext, hread⟩ := decimal_tagged hx
    have hsign : splitSign (Layout.tagged.chars x) = (negative, w.text) := by
      rw [htext]
      exact splitSign_sign negative hvalid.whole_ne hvalid.whole _
    constructor
    · simp only [float?, hsign, hread]
    · obtain ⟨c, hc, hdigit⟩ := Layout.marked.exists_not_digit hmarked
      exact int64?_eq_none (by rwa [hsign]) hdigit

/-! ## Characters of numbers -/

/-- Characters that numbers and words consist of. -/
def isWordChar (c : Char) : Bool :=
  c.isAlpha || isDigit c || c = '-' || c = '.'

theorem isWordChar_of_isDigit (h : isDigit c = true) : isWordChar c = true := by
  simp [isWordChar, h]

theorem isWordChar_sign (negative : Bool) : ∀ c ∈ if negative then ['-'] else [], isWordChar c = true :=
  List.all_eq_true.mp (by cases negative <;> rfl)

theorem Written.Valid.isWordChar {w : Written} (h : w.Valid) : ∀ c ∈ w.text, isWordChar c = true := by
  have hpoint : ∀ c ∈ w.point, Number.isWordChar c = true := by
    unfold Written.point
    split
    · simp
    · rintro c hc
      rcases List.mem_cons.mp hc with rfl | hc
      · decide
      · exact isWordChar_of_isDigit (h.fraction c hc)
  have hexponent : ∀ c ∈ Written.exponentText w.exponent, Number.isWordChar c = true := by
    cases he : w.exponent with
    | none => simp [Written.exponentText]
    | some e =>
      obtain ⟨negative, digits⟩ := e
      intro c hc
      rcases List.mem_cons.mp hc with rfl | hc
      · decide
      rcases List.mem_append.mp hc with hc | hc
      · exact isWordChar_sign negative c hc
      · exact isWordChar_of_isDigit ((h.exponent negative digits he).2 c hc)
  intro c hc
  rcases List.mem_append.mp hc with hc | hc
  · exact isWordChar_of_isDigit (h.whole c hc)
  rcases List.mem_append.mp hc with hc | hc
  · exact hpoint c hc
  · exact hexponent c hc

theorem isWordChar_intText (n : Int64) : ∀ c ∈ (intText n).toList, isWordChar c = true := by
  intro c hc
  rw [intText, String.toList_ofList] at hc
  rcases List.mem_append.mp hc with hc | hc
  · exact isWordChar_sign (n.toInt < 0) c (by simpa using hc)
  · exact isWordChar_of_isDigit (isDigit_of_mem_toDigits hc)

theorem isWordChar_tagged (x : Float) : ∀ c ∈ Layout.tagged.chars x, isWordChar c = true := by
  cases hx : decode x with
  | nan =>
    rw [Layout.chars, hx]
    exact List.all_eq_true.mp rfl
  | infinite negative =>
    rw [Layout.chars, hx]
    exact List.all_eq_true.mp (by cases negative <;> rfl)
  | finite negative coef exp =>
    obtain ⟨w, hvalid, -, htext, -⟩ := decimal_tagged hx
    intro c hc
    rw [htext] at hc
    rcases List.mem_append.mp hc with hc | hc
    · exact isWordChar_sign negative c hc
    · exact hvalid.isWordChar c hc

end RowQuery.Number
