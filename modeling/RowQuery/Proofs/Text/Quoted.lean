import Mathlib
import RowQuery.Text.Quoted

/-!
# Quoted texts can be read

Hexadecimal digits read back (`hexDigits_spec`), so a written character can be told from what stands behind
it (`unescape?_escape`). A quoted text ends at its closing quote and nowhere else: two texts that start with
quoted ones are equal only if these are (`quoted_append_inj`).
-/

namespace RowQuery.Text

/-! ## Hexadecimal digits -/

theorem hexDigit?_digitChar {d : Nat} (h : d < 16) : hexDigit? (Nat.digitChar d) = some d := by
  interval_cases d <;> rfl

theorem hexValue_append (cs : List Char) {c : Char} {d : Nat} (h : hexDigit? c = some d) :
    hexValue (cs ++ [c]) = 16 * hexValue cs + d := by
  simp [hexValue, List.filterMap_append, h]

/-- The digits of a number are hexadecimal, and read back. -/
theorem hexDigits_spec (n : Nat) :
    (∀ c ∈ hexDigits n, hexDigit? c ≠ none) ∧ hexValue (hexDigits n) = n := by
  induction n using Nat.strongRecOn with
  | ind n ih =>
    have hdigit {d : Nat} (h : d < 16) : hexDigit? (Nat.digitChar d) ≠ none := by
      rw [hexDigit?_digitChar h]
      exact Option.some_ne_none d
    rw [hexDigits, Nat.toDigits_eq_if (by decide)]
    split
    next h =>
      refine ⟨fun c hc => ?_, ?_⟩
      · rw [List.mem_singleton.mp hc]
        exact hdigit h
      · exact (hexValue_append [] (hexDigit?_digitChar h)).trans (Nat.zero_add n)
    next h =>
      obtain ⟨hdigits, hvalue⟩ := ih (n / 16) (by omega)
      rw [hexDigits] at hdigits hvalue
      constructor
      · intro c hc
        rcases List.mem_append.mp hc with hc | hc
        · exact hdigits c hc
        · rw [List.mem_singleton.mp hc]
          exact hdigit (Nat.mod_lt n (by decide))
      · rw [hexValue_append _ (hexDigit?_digitChar (Nat.mod_lt n (by decide))), hvalue]
        omega

/-! ## Escaped characters -/

/-- Reads one character of a quoted text, with the text behind it; nothing at the closing quote. -/
def unescape? : List Char → Option (Char × List Char)
  | [] => none
  | '\x22' :: _ => none
  | '\\' :: '0' :: rest => some ('\x00', rest)
  | '\\' :: 't' :: rest => some ('\t', rest)
  | '\\' :: 'r' :: rest => some ('\r', rest)
  | '\\' :: 'n' :: rest => some ('\n', rest)
  | '\\' :: 'u' :: '\x7b' :: rest =>
    some (Char.ofNat (hexValue (rest.takeWhile (· ≠ '\x7d'))), (rest.dropWhile (· ≠ '\x7d')).tail)
  | '\\' :: c :: rest => some (c, rest)
  | c :: rest => some (c, rest)

theorem unescape?_plain {c : Char} (hslash : c ≠ '\\') (hquote : c ≠ '\x22') (rest : List Char) :
    unescape? (c :: rest) = some (c, rest) := by
  unfold unescape?
  split <;> simp_all

/-- **A written character can be told from what stands behind it.** -/
theorem unescape?_escape (c : Char) (rest : List Char) : unescape? (escape c ++ rest) = some (c, rest) := by
  unfold escape
  -- the six characters with a short form
  iterate 6
    split
    next h =>
      rw [h]
      rfl
  split
  next =>
    obtain ⟨hdigits, hvalue⟩ := hexDigits_spec c.toNat
    have hbefore : ∀ d ∈ hexDigits c.toNat, decide (d ≠ '\x7d') = true := by
      intro d hd
      refine decide_eq_true ?_
      rintro rfl
      exact hdigits _ hd rfl
    have htake : (hexDigits c.toNat ++ '\x7d' :: rest).takeWhile (· ≠ '\x7d') = hexDigits c.toNat := by
      rw [List.takeWhile_append_of_pos hbefore]
      simp
    have hdrop : (hexDigits c.toNat ++ '\x7d' :: rest).dropWhile (· ≠ '\x7d') = '\x7d' :: rest := by
      rw [List.dropWhile_append_of_pos hbefore]
      simp
    have htext : ['\\', 'u', '\x7b'] ++ hexDigits c.toNat ++ ['\x7d'] ++ rest =
        '\\' :: 'u' :: '\x7b' :: (hexDigits c.toNat ++ '\x7d' :: rest) := by simp
    rw [htext, unescape?, htake, hdrop, hvalue, Char.ofNat_toNat]
    rfl
  next hslash hquote _ => exact unescape?_plain hslash hquote rest

/-! ## Quoted texts -/

theorem escaped_append_inj {cs ds r r' : List Char}
    (h : cs.flatMap escape ++ '\x22' :: r = ds.flatMap escape ++ '\x22' :: r') : cs = ds ∧ r = r' := by
  induction cs generalizing ds with
  | nil =>
    cases ds with
    | nil => exact ⟨rfl, (List.cons.inj h).2⟩
    | cons d ds =>
      rw [List.flatMap_cons, List.append_assoc] at h
      have hread := congrArg unescape? h
      rw [unescape?_escape] at hread
      cases hread
  | cons c cs ih =>
    rw [List.flatMap_cons, List.append_assoc] at h
    have hread := congrArg unescape? h
    cases ds with
    | nil =>
      rw [unescape?_escape] at hread
      cases hread
    | cons d ds =>
      rw [List.flatMap_cons, List.append_assoc, unescape?_escape, unescape?_escape] at hread
      obtain ⟨rfl, hrest⟩ := Prod.mk.inj (Option.some.inj hread)
      obtain ⟨rfl, hr⟩ := ih hrest
      exact ⟨rfl, hr⟩

theorem toList_quoted (s : String) :
    (quoted s).toList = '\x22' :: (s.toList.flatMap escape ++ ['\x22']) := by
  rw [quoted, String.toList_ofList, List.cons_append]

/-- **A quoted text can be told from what stands behind it.** -/
theorem quoted_append_inj {s t : String} {r r' : List Char}
    (h : (quoted s).toList ++ r = (quoted t).toList ++ r') : s = t ∧ r = r' := by
  rw [toList_quoted, toList_quoted, List.cons_append, List.cons_append, List.append_assoc,
    List.append_assoc] at h
  obtain ⟨hlist, hr⟩ := escaped_append_inj (List.cons.inj h).2
  exact ⟨String.toList_inj.mp hlist, hr⟩

end RowQuery.Text
