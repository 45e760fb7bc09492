import RowQuery.Proofs.Lambda.Lexing
import RowQuery.Proofs.Number.Bits
import RowQuery.Proofs.Number.Digits

/-!
# What a scanner can make

Tokens of a text carry no sign: an integer is not negative and a float is neither negative nor NaN,
though it may be infinite. Names are names (`Lexes.lexical`).
-/

namespace RowQuery

namespace Number

/-- A decimal without a sign is no NaN. -/
theorem ofDecimal_eq_ofMagnitude (coef : Nat) (exp : Int) :
    ∃ magnitude ≤ infinityBits, ofDecimal false coef exp = ofMagnitude false magnitude := by
  unfold ofDecimal
  split
  next => exact ⟨0, by decide, rfl⟩
  next =>
    dsimp only
    split
    next => exact ⟨0, by decide, rfl⟩
    next =>
      split
      next => exact ⟨infinityBits, Nat.le_refl _, rfl⟩
      next =>
        refine ⟨_, ?_, rfl⟩
        unfold ratioBits
        split
        next => decide
        next => exact Nat.min_le_right _ _

end Number

namespace Lambda

open Text (isBlank isWordChar isWordStart)

variable {offset : Nat} {c : Char} {cs rest : List Char} {l : Lexeme} {ts : List Token}

/-- A character that starts a name, and characters that continue it. -/
def IsName (cs : List Char) : Prop :=
  ∃ c rest, cs = c :: rest ∧ isWordStart c = true ∧ ∀ d ∈ rest, isWordChar d = true

theorem isName_cons (hc : isWordStart c = true) (hrest : rest.all isWordChar = true) :
    IsName (c :: rest) :=
  ⟨c, rest, rfl, hc, List.all_eq_true.mp hrest⟩

def Token.Lexical : Token → Prop
  | .int n => 0 ≤ n.toInt
  | .float x => ∃ magnitude ≤ Number.infinityBits, x = Number.ofMagnitude false magnitude
  | .ident name => IsName name.toList
  | _ => True

theorem lexical_symbols : ∀ s ∈ symbols, ∀ t, s.2 = .ok t → t.Lexical := by
  simp [symbols, Token.Lexical]

theorem lexical_wordToken {word : String} (h : IsName word.toList) : (wordToken word).Lexical := by
  unfold wordToken
  repeat' split
  all_goals trivial

theorem lexical_scanNumber (hc : Number.isDigit c = true)
    (h : scanNumber offset (c :: rest) = .ok l) : l.token.Lexical := by
  have hwhole : ∀ d ∈ (c :: rest).takeWhile Number.isDigit, Number.isDigit d = true := fun d hd =>
    List.all_eq_true.mp List.all_takeWhile d hd
  have hne : (c :: rest).takeWhile Number.isDigit ≠ [] := by simp [hc]
  rcases hf : fraction ((c :: rest).dropWhile Number.isDigit) with ⟨point, behind⟩
  obtain ⟨-, hshape, -⟩ := fraction_cut hf
  simp only [scanNumber, hf] at h
  split at h
  next token htoken =>
    cases h
    split at htoken
    next hpoint =>
      obtain ⟨n, hn, rfl⟩ := Option.map_eq_some_iff.mp htoken
      rw [List.isEmpty_iff.mp hpoint, List.append_nil] at hn
      exact Number.toInt_nonneg_of_int64 hne hwhole hn
    next hpoint =>
      obtain ⟨x, hx, rfl⟩ := Option.map_eq_some_iff.mp htoken
      rcases hshape with rfl | ⟨digits, rfl, hdne, hdigits⟩
      · exact absurd rfl hpoint
      · let w : Number.Written := ⟨(c :: rest).takeWhile Number.isDigit, digits, none⟩
        have hw : w.Valid := ⟨hne, hwhole, hdigits, by simp [w]⟩
        have htext : w.text = (c :: rest).takeWhile Number.isDigit ++ '.' :: digits := by
          simp [w, Number.Written.text, Number.Written.point, Number.Written.exponentText, hdne]
        rw [← htext, Number.Written.float_text hw, Option.some.injEq] at hx
        rw [← hx]
        exact Number.ofDecimal_eq_ofMagnitude _ _
  next => cases h

theorem lexical_scan (h : scan offset c rest = .ok l) : l.token.Lexical := by
  unfold scan at h
  split at h
  next hsym =>
    cases h
    obtain ⟨s, hs, hl⟩ := Option.map_eq_some_iff.1 hsym
    cases hs2 : s.2 with
    | error e => rw [hs2] at hl; cases hl
    | ok token =>
      rw [hs2] at hl
      cases hl
      exact lexical_symbols s (List.mem_of_find?_eq_some hs) token hs2
  next => cases h
  next =>
    split at h
    next =>
      unfold scanString at h
      cases hb : stringBody c offset (offset + 1) rest with
      | error e => rw [hb] at h; cases h
      | ok found => rw [hb] at h; cases h; trivial
    next =>
      split at h
      next hw =>
        cases h
        refine lexical_wordToken ⟨c, rest.takeWhile isWordChar, ?_, hw, fun d hd => ?_⟩
        · rw [String.toList_ofList, List.takeWhile_cons, if_pos (Text.isWordChar_of_isWordStart hw)]
        · exact List.all_eq_true.mp List.all_takeWhile d hd
      next =>
        split at h
        next hd => exact lexical_scanNumber hd h
        next => cases h

theorem Lexes.lexical (h : Lexes cs ts) : ∀ t ∈ ts, t.Lexical := by
  induction h with
  | nil => simp
  | blank _ _ ih => exact ih
  | token _ hl _ ih =>
    intro t ht
    rcases List.mem_cons.mp ht with rfl | ht
    · exact lexical_scan hl
    · exact ih t ht

/-- A float in a text is infinite, or it is written as it reads. -/
theorem Token.Lexical.float {x : Float} (h : (Token.float x).Lexical) :
    Number.decode x = .infinite false ∨ ∃ coef exp, Number.decode x = .finite false coef exp := by
  obtain ⟨magnitude, hle, rfl⟩ := h
  exact Number.decode_ofMagnitude hle

end Lambda

end RowQuery
