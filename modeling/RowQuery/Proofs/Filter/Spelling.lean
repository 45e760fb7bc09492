import RowQuery.Filter.Token
import RowQuery.Proofs.Lambda.Lexical
import RowQuery.Proofs.Number.Layout

/-!
# Tokens of a filter and their texts

`Spells cs ts` says that the filter's scanner reads the tokens `ts` from a text. A text of a token can be
put in front: operators and quoted strings as they are, words and numbers where the text behind them is
`Delimited` (`spells_word`, `spells_int`, `spells_float`, `spells_quote`).
-/

namespace RowQuery.Filter

open Lambda (IsName)
open Number (Written isDigit)
open Text (isBlank isWordChar isWordStart)

variable {c : Char} {cs rest behind : List Char} {t : Token} {ts : List Token}

/-- The text consists of the tokens, wherever it stands. -/
def Spells (cs : List Char) (ts : List Token) : Prop :=
  ∀ offset, tokensFrom offset cs = .ok ts

/-- The end of a text, or a character that ends words and numbers. -/
def Delimited (behind : List Char) : Prop :=
  ∀ c ∈ behind.head?, c ∈ [' ', '(', ')', ',']

/-! ## One token after the other -/

theorem tokensFrom_eq (offset : Nat) (cs : List Char) :
    tokensFrom offset cs =
      match cs.dropWhile isBlank with
      | [] => .ok []
      | c :: rest =>
        let start := offset + (cs.takeWhile isBlank).length
        match scan start c rest with
        | .error e => .error e
        | .ok l => (tokensFrom (start + l.length) l.rest).map (l.token :: ·) := by
  rw [tokensFrom]
  split
  next h => rw [h]
  next h =>
    simp only [h]
    split
    next hl => rw [hl]
    next hl => rw [hl]

theorem spells_nil : Spells [] [] := by
  intro offset
  rw [tokensFrom_eq]
  rfl

theorem tokensFrom_blank (hc : isBlank c = true) (offset : Nat) :
    tokensFrom offset (c :: rest) = tokensFrom (offset + 1) rest := by
  have hstart : offset + ((c :: rest).takeWhile isBlank).length =
      offset + 1 + (rest.takeWhile isBlank).length := by
    simp only [List.takeWhile_cons, hc, if_true, List.length_cons]
    omega
  rw [tokensFrom_eq, hstart, List.dropWhile_cons, if_pos hc, ← tokensFrom_eq]

theorem tokensFrom_cons (hc : isBlank c = false) (offset : Nat) :
    tokensFrom offset (c :: rest) =
      match scan offset c rest with
      | .error e => .error e
      | .ok l => (tokensFrom (offset + l.length) l.rest).map (l.token :: ·) := by
  rw [tokensFrom_eq]
  simp only [List.takeWhile_cons, List.dropWhile_cons, hc, Bool.false_eq_true, if_false,
    List.length_nil, Nat.add_zero]

theorem spells_blank (hc : isBlank c = true) (h : Spells rest ts) : Spells (c :: rest) ts := by
  intro offset
  rw [tokensFrom_blank hc]
  exact h (offset + 1)

theorem spells_token (hc : isBlank c = false)
    (hscan : ∀ offset, ∃ n, scan offset c rest = .ok ⟨t, n, behind⟩) (h : Spells behind ts) :
    Spells (c :: rest) (t :: ts) := by
  intro offset
  obtain ⟨n, hn⟩ := hscan offset
  rw [tokensFrom_cons hc, hn]
  show (tokensFrom (offset + n) behind).map (t :: ·) = _
  rw [h (offset + n)]
  rfl

/-! ## Operators and words -/

theorem spells_symbol (hc : symbol? c = some t) (h : Spells rest ts) : Spells (c :: rest) (t :: ts) := by
  have hblank : isBlank c = false := by
    unfold symbol? at hc
    split at hc <;> first | decide | cases hc
  exact spells_token hblank (fun offset => ⟨1, by rw [scan, hc]⟩) h

theorem not_wordChar_of_delimited (h : Delimited behind) :
    ∀ c ∈ behind.head?, isWordChar c = false := by
  have hall : [' ', '(', ')', ','].all (!isWordChar ·) = true := by decide
  intro c hc
  simpa using List.all_eq_true.mp hall c (h c hc)

/-- What starts a word starts nothing else. -/
theorem wordStart_facts (h : isWordStart c = true) :
    isBlank c = false ∧ symbol? c = none ∧ c ≠ '\x27' ∧ isDigit c = false := by
  have hblank : isBlank c = false := by
    by_contra hb
    have := Text.isWordChar_of_isBlank (c := c) (by simpa using hb)
    rw [Text.isWordChar_of_isWordStart h] at this
    cases this
  have hascii : ∀ n < 128, isWordStart (Char.ofNat n) = true →
      symbol? (Char.ofNat n) = none ∧ Char.ofNat n ≠ '\x27' ∧ isDigit (Char.ofNat n) = false := by
    decide
  refine ⟨hblank, ?_⟩
  by_cases hc : c.toNat < 128
  · simpa [h] using hascii c.toNat hc
  · refine ⟨?_, ?_, ?_⟩
    · unfold symbol?
      split
      all_goals first | rfl | exact absurd (by decide) hc
    · rintro rfl
      exact hc (by decide)
    · by_contra hd
      have hle : c ≤ '9' := by
        simp only [isDigit, Bool.not_eq_false, Bool.and_eq_true, decide_eq_true_eq] at hd
        exact hd.2
      exact hc (Nat.lt_of_le_of_lt hle (by decide))

theorem takeWhile_name {name : List Char} (hname : ∀ d ∈ name, isWordChar d = true)
    (hb : Delimited behind) :
    (name ++ behind).takeWhile isWordChar = name ∧ (name ++ behind).dropWhile isWordChar = behind := by
  rw [List.takeWhile_append_of_pos hname, List.dropWhile_append_of_pos hname]
  cases behind with
  | nil => simp
  | cons c behind => simp [not_wordChar_of_delimited hb c rfl]

theorem spells_word {name : List Char} (hname : IsName name) (hb : Delimited behind)
    (h : Spells behind ts) : Spells (name ++ behind) (.word (String.ofList name) :: ts) := by
  obtain ⟨c, rest, rfl, hc, hrest⟩ := hname
  obtain ⟨hblank, hsymbol, hquote, hdigit⟩ := wordStart_facts hc
  obtain ⟨htake, hdrop⟩ := takeWhile_name hrest hb
  rw [List.cons_append]
  refine spells_token hblank (fun offset => ⟨rest.length + 1, ?_⟩) h
  simp only [scan, hsymbol, if_neg hquote, hdigit, Bool.false_eq_true, if_false, if_pos hc, htake, hdrop]

/-! ## Strings -/

theorem stringBody_quoted (s : List Char) (hb : behind.head? ≠ some '\x27') :
    ∃ n, stringBody? (Text.replaceChar '\x27' ['\x27', '\x27'] s ++ '\x27' :: behind) =
      some (s, n, behind) := by
  induction s with
  | nil =>
    refine ⟨1, ?_⟩
    cases behind with
    | nil => rfl
    | cons c behind =>
      have hc : c ≠ '\x27' := by rintro rfl; exact hb rfl
      simp only [Text.replaceChar, List.flatMap_nil, List.nil_append]
      rw [stringBody?]
      · simp
      · intro rest _ heq
        cases heq
        exact hc rfl
  | cons c s ih =>
    obtain ⟨n, hn⟩ := ih
    by_cases hc : c = '\x27'
    · subst hc
      refine ⟨n + 2, ?_⟩
      simp only [Text.replaceChar, List.flatMap_cons, if_true] at hn ⊢
      simp only [List.cons_append, List.nil_append, stringBody?, hn, Option.map_some]
    · refine ⟨n + 1, ?_⟩
      simp only [Text.replaceChar, List.flatMap_cons, if_neg hc] at hn ⊢
      simp only [List.cons_append, List.nil_append]
      rw [stringBody?, if_neg hc, hn]
      · rfl
      · intro rest hquote
        exact absurd hquote hc

theorem spells_quote (s : String) (hb : behind.head? ≠ some '\x27') (h : Spells behind ts) :
    Spells ((quote s).toList ++ behind) (.str s :: ts) := by
  obtain ⟨n, hn⟩ := stringBody_quoted s.toList hb
  have htext : (quote s).toList ++ behind =
      '\x27' :: (Text.replaceChar '\x27' ['\x27', '\x27'] s.toList ++ '\x27' :: behind) := by
    simp [quote]
  rw [htext]
  refine spells_token (by decide) (fun offset => ⟨n + 1, ?_⟩) h
  have hsymbol : symbol? '\x27' = none := rfl
  simp only [scan, hsymbol, if_true, hn, String.ofList_toList]

/-! ## Numbers -/

theorem numeral_digits {digits : List Char} (hd : ∀ d ∈ digits, isDigit d = true)
    (isFloat : Bool) (rest : List Char) :
    numeral isFloat false (digits ++ rest) =
      (digits ++ (numeral isFloat false rest).1, (numeral isFloat false rest).2) := by
  induction digits with
  | nil => rfl
  | cons d digits ih =>
    rw [List.cons_append, numeral, if_pos (hd d List.mem_cons_self),
      ih fun d hd' => hd d (List.mem_cons_of_mem _ hd')]
    rfl

theorem numeral_stop (isFloat : Bool) (hb : Delimited behind) :
    numeral isFloat false behind = ([], isFloat, behind) := by
  cases behind with
  | nil => rfl
  | cons c behind =>
    have hall : [' ', '(', ')', ','].all
        (fun c => !isDigit c && c ≠ '.' && c ≠ 'e' && c ≠ 'E') = true := by decide
    have hc := List.all_eq_true.mp hall c (hb c rfl)
    simp only [Bool.and_eq_true, Bool.not_eq_true', decide_eq_true_eq] at hc
    obtain ⟨⟨⟨h1, h2⟩, h3⟩, h4⟩ := hc
    simp [numeral, h1, h2, h3, h4]

theorem numeral_exponent {w : Written} (hw : w.Valid) (isFloat : Bool) (hb : Delimited behind) :
    numeral isFloat false (Written.exponentText w.exponent ++ behind) =
      (Written.exponentText w.exponent, isFloat || w.exponent.isSome, behind) := by
  rcases he : w.exponent with _ | ⟨negative, digits⟩
  · rw [Written.exponentText, List.nil_append, numeral_stop isFloat hb]
    simp
  · obtain ⟨hne, hd⟩ := hw.exponent negative digits he
    have hdigits : numeral true false (digits ++ behind) = (digits, true, behind) := by
      rw [numeral_digits hd, numeral_stop true hb, List.append_nil]
    have hmark : numeral true true ((if negative then ['-'] else []) ++ digits ++ behind) =
        ((if negative then ['-'] else []) ++ digits, true, behind) := by
      cases negative with
      | true =>
        have hminus : isDigit '-' = false := by decide
        simp [numeral, hminus, hdigits]
      | false =>
        obtain ⟨d, digits, rfl⟩ := List.exists_cons_of_ne_nil hne
        have hd' := hd d List.mem_cons_self
        simp only [List.cons_append, numeral, if_pos hd', Bool.false_eq_true, if_false,
          List.nil_append] at hdigits ⊢
        exact hdigits
    have hdigit : isDigit 'e' = false := by decide
    simp only [Written.exponentText, List.cons_append]
    rw [numeral, if_neg (by simp [hdigit]), if_neg (by simp), if_pos (by simp), hmark]
    simp

theorem numeral_text {w : Written} (hw : w.Valid) (hb : Delimited behind) :
    numeral false false (w.text ++ behind) =
      (w.text, !w.fraction.isEmpty || w.exponent.isSome, behind) := by
  rw [Written.text, List.append_assoc, numeral_digits hw.whole, List.append_assoc]
  by_cases hf : w.fraction = []
  · have hpoint : w.point = [] := by simp [Written.point, hf]
    rw [hpoint, List.nil_append, numeral_exponent hw false hb]
    simp [hf]
  · have hpoint : w.point = '.' :: w.fraction := by simp [Written.point, hf]
    have hdot : isDigit '.' = false := by decide
    rw [hpoint, List.cons_append, numeral, if_neg (by simp [hdot]), if_pos (by simp),
      numeral_digits hw.fraction, numeral_exponent hw true hb]
    simp [hf]

theorem digit_facts (h : isDigit c = true) :
    isBlank c = false ∧ symbol? c = none ∧ c ≠ '\x27' := by
  have hlt : c.toNat < 128 := by
    simp only [isDigit, Bool.and_eq_true, decide_eq_true_eq] at h
    exact Nat.lt_of_le_of_lt h.2 (by decide)
  have hascii : ∀ n < 128, isDigit (Char.ofNat n) = true →
      isBlank (Char.ofNat n) = false ∧ symbol? (Char.ofNat n) = none ∧ Char.ofNat n ≠ '\x27' := by
    decide
  simpa [h] using hascii c.toNat hlt

theorem spells_number {w : Written} (hw : w.Valid) (hb : Delimited behind)
    (htoken : (if !w.fraction.isEmpty || w.exponent.isSome then
        (Number.float? w.text).map Token.float
      else (Number.int64? w.text).map Token.int) = some t) (h : Spells behind ts) :
    Spells (w.text ++ behind) (t :: ts) := by
  obtain ⟨c, whole, hwhole⟩ := List.exists_cons_of_ne_nil hw.whole_ne
  have hc : isDigit c = true := hw.whole c (hwhole ▸ List.mem_cons_self)
  obtain ⟨hblank, hsymbol, hquote⟩ := digit_facts hc
  have htext : w.text ++ behind = c :: (whole ++ (w.point ++ Written.exponentText w.exponent) ++ behind) := by
    rw [Written.text, hwhole]
    rfl
  have hnumeral := numeral_text hw hb
  rw [htext] at hnumeral ⊢
  refine spells_token hblank (fun offset => ⟨w.text.length, ?_⟩) h
  simp only [scan, hsymbol, if_neg hquote, if_pos hc, scanNumber, hnumeral, htoken]

/-- The digits of an integer. -/
theorem spells_int {n : Int64} (hn : 0 ≤ n.toInt) (hb : Delimited behind) (h : Spells behind ts) :
    Spells ((Number.intText n).toList ++ behind) (.int n :: ts) := by
  let w : Written := ⟨Nat.toDigits 10 n.toInt.natAbs, [], none⟩
  have hw : w.Valid :=
    ⟨Nat.toDigits_ne_nil, fun _ => Number.isDigit_of_mem_toDigits, by simp [w], by simp [w]⟩
  have htext : w.text = (Number.intText n).toList := by
    simp [w, Written.text, Written.point, Written.exponentText, Number.intText_of_nonneg hn]
  rw [← htext]
  refine spells_number hw hb ?_ h
  rw [htext, Number.intText_of_nonneg hn, Number.int64_toDigits hn]
  rfl

theorem spells_float {w : Written} {x : Float} (hw : w.Valid) (hmarked : Number.Layout.marked w)
    (hx : Number.float? w.text = some x) (hb : Delimited behind) (h : Spells behind ts) :
    Spells (w.text ++ behind) (.float x :: ts) := by
  refine spells_number hw hb ?_ h
  have hfloat : (!w.fraction.isEmpty || w.exponent.isSome) = true := by
    rcases hmarked with hf | he
    · simp [hf]
    · simp [Option.isSome_iff_ne_none.mpr he]
  rw [if_pos hfloat, hx]
  rfl

end RowQuery.Filter
