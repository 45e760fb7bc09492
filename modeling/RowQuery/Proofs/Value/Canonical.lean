import RowQuery.Proofs.Number.TaggedText
import RowQuery.Proofs.Text.Quoted
import RowQuery.Value.Canonical

/-!
# Canonical texts identify values

A canonical text shows where it ends: a string by its quotes, an array or an object by its brackets, and a
word or a number by the mark that follows. So a text that starts with canonical texts of two values is the
same value twice, with the same text behind it (`canonicalChars_append_inj`), and two values with one
canonical text are one (`canonical_inj`).
-/

namespace RowQuery.Value

open Number

variable {v w : Value} {r r' : List Char}

/-! ## First characters -/

/-- The quote or bracket that a text starts with. Words and numbers have none. -/
def opening? : Value → Option Char
  | str _ => some '\x22'
  | array _ => some '['
  | object _ => some '\x7b'
  | _ => none

/-- Reads a word or a number. -/
def readWord (cs : List Char) : Value :=
  match int64? cs, float? cs with
  | some n, _ => int n
  | none, some x => float x
  | none, none => if cs = ['n', 'u', 'l', 'l'] then null else bool (cs = ['t', 'r', 'u', 'e'])

/-- **Words and numbers read back.** -/
theorem readWord_canonicalChars (h : v.opening? = none) : readWord v.canonicalChars = v := by
  cases v with
  | null => rfl
  | bool b => cases b <;> rfl
  | int n => rw [canonicalChars, readWord, int64?_intText]
  | float x =>
    obtain ⟨hfloat, hint⟩ := float?_tagged x
    rw [canonicalChars, readWord, hfloat, hint]
  | str | array | object => cases h

theorem isWordChar_canonicalChars (h : v.opening? = none) : ∀ c ∈ v.canonicalChars, isWordChar c = true := by
  cases v with
  | null => exact List.all_eq_true.mp rfl
  | bool b => exact List.all_eq_true.mp (by cases b <;> rfl)
  | int n =>
    rw [canonicalChars]
    exact isWordChar_intText n
  | float x =>
    rw [canonicalChars]
    exact isWordChar_tagged x
  | str | array | object => cases h

/-- The first character tells words and numbers from the rest. -/
theorem canonicalChars_eq_cons (v : Value) : ∃ c cs, v.canonicalChars = c :: cs ∧
    v.opening? = if isWordChar c then none else some c := by
  cases hopening : v.opening? with
  | none =>
    have hne : v.canonicalChars ≠ [] := by
      intro hnil
      have hread := readWord_canonicalChars hopening
      rw [hnil] at hread
      rw [← hread] at hnil
      cases hnil
    obtain ⟨c, cs, hcs⟩ := List.exists_cons_of_ne_nil hne
    refine ⟨c, cs, hcs, ?_⟩
    rw [if_pos (isWordChar_canonicalChars hopening c (by simp [hcs]))]
  | some c =>
    cases v with
    | str s =>
      cases hopening
      exact ⟨'\x22', _, by rw [canonicalChars, Text.toList_quoted], rfl⟩
    | array vs =>
      cases hopening
      exact ⟨'[', canonicalItems vs ++ [']'], by rw [canonicalChars, List.cons_append], rfl⟩
    | object fields =>
      cases hopening
      exact ⟨'\x7b', canonicalFields fields ++ ['\x7d'], by rw [canonicalChars, List.cons_append], rfl⟩
    | null | bool | int | float => cases hopening

theorem opening?_eq (h : v.canonicalChars ++ r = w.canonicalChars ++ r') : v.opening? = w.opening? := by
  obtain ⟨c, cs, hcs, hv⟩ := canonicalChars_eq_cons v
  obtain ⟨d, ds, hds, hw⟩ := canonicalChars_eq_cons w
  rw [hcs, hds] at h
  rw [hv, hw, (List.cons.inj h).1]

theorem canonicalChars_append_ne (v : Value) : v.canonicalChars ++ r ≠ ']' :: r' := by
  obtain ⟨c, cs, hcs, hopening⟩ := canonicalChars_eq_cons v
  intro h
  rw [hcs] at h
  obtain rfl : c = ']' := (List.cons.inj h).1
  cases v <;> cases hopening

/-! ## Texts and what stands behind them -/

/-- A text that no word or number can go on into. -/
def Apart (r : List Char) : Prop :=
  ∀ c ∈ r.head?, isWordChar c = false

theorem word_append_inj (hopening : v.opening? = none) (hr : Apart r) (hr' : Apart r')
    (h : v.canonicalChars ++ r = w.canonicalChars ++ r') : v = w ∧ r = r' := by
  have hopening' : w.opening? = none := opening?_eq h ▸ hopening
  obtain ⟨htake, hdrop⟩ := takeWhile_of_head (isWordChar_canonicalChars hopening) hr
  obtain ⟨htake', hdrop'⟩ := takeWhile_of_head (isWordChar_canonicalChars hopening') hr'
  have htext : v.canonicalChars = w.canonicalChars := by rw [← htake, h, htake']
  constructor
  · rw [← readWord_canonicalChars hopening, htext, readWord_canonicalChars hopening']
  · rw [← hdrop, h, hdrop']

/-- What stands behind an element of an array. -/
def itemsBehind (r : List Char) : List Value → List Char
  | [] => ']' :: r
  | v :: vs => ',' :: (canonicalItems (v :: vs) ++ ']' :: r)

theorem canonicalItems_cons (v : Value) (vs : List Value) (r : List Char) :
    canonicalItems (v :: vs) ++ ']' :: r = v.canonicalChars ++ itemsBehind r vs := by
  cases vs with
  | nil => rw [canonicalItems, itemsBehind]
  | cons w vs =>
    rw [canonicalItems, itemsBehind, List.append_assoc, List.cons_append]
    exact List.cons_ne_nil w vs

theorem apart_itemsBehind (r : List Char) (vs : List Value) : Apart (itemsBehind r vs) := by
  intro c hc
  cases vs <;> cases hc <;> rfl

theorem itemsBehind_eq {vs ws : List Value} (h : itemsBehind r vs = itemsBehind r' ws) :
    canonicalItems vs ++ ']' :: r = canonicalItems ws ++ ']' :: r' := by
  cases vs <;> cases ws <;> first | exact (List.cons.inj h).2 | exact h | cases h

/-- What stands behind a field of an object. -/
def fieldsBehind (r : List Char) : List (String × Value) → List Char
  | [] => '\x7d' :: r
  | field :: fields => ',' :: (canonicalFields (field :: fields) ++ '\x7d' :: r)

theorem canonicalFields_cons (k : String) (v : Value) (fields : List (String × Value)) (r : List Char) :
    canonicalFields ((k, v) :: fields) ++ '\x7d' :: r =
      (Text.quoted k).toList ++ ':' :: (v.canonicalChars ++ fieldsBehind r fields) := by
  cases fields with
  | nil => simp [canonicalFields, fieldsBehind]
  | cons field fields => simp [canonicalFields, fieldsBehind]

theorem apart_fieldsBehind (r : List Char) (fields : List (String × Value)) :
    Apart (fieldsBehind r fields) := by
  intro c hc
  cases fields <;> cases hc <;> rfl

theorem fieldsBehind_eq {fields fields' : List (String × Value)}
    (h : fieldsBehind r fields = fieldsBehind r' fields') :
    canonicalFields fields ++ '\x7d' :: r = canonicalFields fields' ++ '\x7d' :: r' := by
  cases fields <;> cases fields' <;> first | exact (List.cons.inj h).2 | exact h | cases h

/-! ## Values -/

mutual

/-- **A canonical text can be told from what stands behind it.** -/
theorem canonicalChars_append_inj (v w : Value) {r r' : List Char} (hr : Apart r) (hr' : Apart r')
    (h : v.canonicalChars ++ r = w.canonicalChars ++ r') : v = w ∧ r = r' := by
  have hopening := opening?_eq h
  cases v with
  | null | bool | int | float => exact word_append_inj rfl hr hr' h
  | str s =>
    cases w with
    | str t =>
      rw [canonicalChars, canonicalChars] at h
      obtain ⟨rfl, hr⟩ := Text.quoted_append_inj h
      exact ⟨rfl, hr⟩
    | _ => cases hopening
  | array vs =>
    cases w with
    | array ws =>
      rw [canonicalChars, canonicalChars] at h
      simp only [List.cons_append, List.append_assoc, List.nil_append] at h
      obtain ⟨rfl, hr⟩ := canonicalItems_append_inj vs ws (List.cons.inj h).2
      exact ⟨rfl, hr⟩
    | _ => cases hopening
  | object fields =>
    cases w with
    | object fields' =>
      rw [canonicalChars, canonicalChars] at h
      simp only [List.cons_append, List.append_assoc, List.nil_append] at h
      obtain ⟨rfl, hr⟩ := canonicalFields_append_inj fields fields' (List.cons.inj h).2
      exact ⟨rfl, hr⟩
    | _ => cases hopening

theorem canonicalItems_append_inj : ∀ (vs ws : List Value) {r r' : List Char},
    canonicalItems vs ++ ']' :: r = canonicalItems ws ++ ']' :: r' → vs = ws ∧ r = r'
  | [], [], _, _, h => ⟨rfl, (List.cons.inj h).2⟩
  | [], w :: ws, r, r', h => by
    rw [canonicalItems_cons] at h
    exact absurd h.symm (canonicalChars_append_ne w)
  | v :: vs, [], r, r', h => by
    rw [canonicalItems_cons] at h
    exact absurd h (canonicalChars_append_ne v)
  | v :: vs, w :: ws, r, r', h => by
    rw [canonicalItems_cons, canonicalItems_cons] at h
    obtain ⟨rfl, hbehind⟩ := canonicalChars_append_inj v w (apart_itemsBehind _ _) (apart_itemsBehind _ _) h
    obtain ⟨rfl, hr⟩ := canonicalItems_append_inj vs ws (itemsBehind_eq hbehind)
    exact ⟨rfl, hr⟩

theorem canonicalFields_append_inj : ∀ (fields fields' : List (String × Value)) {r r' : List Char},
    canonicalFields fields ++ '\x7d' :: r = canonicalFields fields' ++ '\x7d' :: r' →
      fields = fields' ∧ r = r'
  | [], [], _, _, h => ⟨rfl, (List.cons.inj h).2⟩
  | [], (k, v) :: fields, r, r', h => by
    rw [canonicalFields_cons, Text.toList_quoted] at h
    cases h
  | (k, v) :: fields, [], r, r', h => by
    rw [canonicalFields_cons, Text.toList_quoted] at h
    cases h
  | (k, v) :: fields, (k', v') :: fields', r, r', h => by
    rw [canonicalFields_cons, canonicalFields_cons] at h
    obtain ⟨rfl, hvalue⟩ := Text.quoted_append_inj h
    obtain ⟨rfl, hbehind⟩ := canonicalChars_append_inj v v' (apart_fieldsBehind _ _) (apart_fieldsBehind _ _)
      (List.cons.inj hvalue).2
    obtain ⟨rfl, hr⟩ := canonicalFields_append_inj fields fields' (fieldsBehind_eq hbehind)
    exact ⟨rfl, hr⟩

end

/-- **Two values with one canonical text are one.** -/
theorem canonical_inj : v.canonical = w.canonical ↔ v = w := by
  refine ⟨fun h => ?_, fun h => h ▸ rfl⟩
  have hchars : v.canonicalChars ++ [] = w.canonicalChars ++ [] := by
    rw [List.append_nil, List.append_nil]
    exact String.ofList_inj.mp h
  have hend : Apart [] := fun c hc => nomatch hc
  exact (canonicalChars_append_inj v w hend hend hchars).1

end RowQuery.Value
