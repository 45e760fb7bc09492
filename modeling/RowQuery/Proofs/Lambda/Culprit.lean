import RowQuery.Proofs.Lambda.Spans
import RowQuery.Proofs.Lambda.Spelling

/-!
# Where a text cannot be read

A lexical error says where it is. `Blames source start e` relates the error to the text: `start` is the
place of the token that cannot be read, and what the error reports stands there or, for an escape, inside of
that token. Everything in front of that token can be read (`tokenize_error_blames`).
-/

namespace RowQuery.Lambda

open Text (isBlank)
open Number (isDigit)

variable {source : List Char} {position offset start : Nat} {c quote : Char} {cs rest text : List Char}
  {e : LexError} {ts : List Token}

/-! ## Strings that do not end well -/

theorem mem_escapes {letter : Char} (h : unescape? letter = some c) : (letter, c) ∈ escapes := by
  unfold unescape? at h
  split at h <;> cases h <;> decide

/-- A string that is not read is never closed, or has an escape in it that there is not. -/
theorem stringBody_error (h : stringBody quote start offset cs = .error e) :
    e = .unterminatedString start ∨ ∃ s text letter behind, QuotedText quote s text ∧
      cs = text ++ '\\' :: letter :: behind ∧ unescape? letter = none ∧
        e = .invalidEscape letter (offset + text.length + 1) := by
  fun_induction stringBody quote start offset cs with
  | case1 => cases h; exact .inl rfl
  | case2 => cases h
  | case3 => cases h; exact .inl rfl
  | case4 => cases h
  | case5 offset letter rest d hletter hquote ih =>
    rcases bind_eq_error.mp h with h | ⟨_, -, h⟩
    · refine (ih h).imp_right ?_
      rintro ⟨s, text, bad, behind, htext, rfl, hbad, rfl⟩
      refine ⟨d :: s, '\\' :: letter :: text, bad, behind, .escape (mem_escapes hletter) htext, rfl, hbad, ?_⟩
      simp only [List.length_cons]
      congr 1
      omega
    · cases h
  | case6 offset letter rest hletter hquote =>
    cases h
    exact .inr ⟨[], [], letter, rest, .nil, rfl, hletter, rfl⟩
  | case7 offset c d rest hquote hslash ih =>
    rcases bind_eq_error.mp h with h | ⟨_, -, h⟩
    · refine (ih h).imp_right ?_
      rintro ⟨s, text, bad, behind, htext, heq, hbad, rfl⟩
      refine ⟨c :: s, c :: text, bad, behind, .plain hquote hslash htext, by rw [heq]; rfl, hbad, ?_⟩
      simp only [List.length_cons]
      congr 1
      omega
    · cases h

/-! ## Numbers -/

/-- Digits, and perhaps a point and more digits. -/
def Numeral (text : List Char) : Prop :=
  ∃ whole point, text = whole ++ point ∧ (whole ≠ [] ∧ ∀ d ∈ whole, isDigit d = true) ∧
    (point = [] ∨ ∃ digits, point = '.' :: digits ∧ digits ≠ [] ∧ ∀ d ∈ digits, isDigit d = true)

/-- No longer part at the start of the text is a numeral than the digits there and the fraction behind
them. -/
theorem Numeral.length_le (h : Numeral text) (hfront : text <+: cs) :
    text.length ≤ (cs.takeWhile isDigit ++ (fraction (cs.dropWhile isDigit)).1).length := by
  obtain ⟨whole, point, rfl, ⟨-, hwhole⟩, hpoint⟩ := h
  obtain ⟨behind, rfl⟩ := hfront
  rw [List.append_assoc, List.takeWhile_append_of_pos hwhole, List.dropWhile_append_of_pos hwhole]
  rcases hpoint with rfl | ⟨digits, rfl, hne, hdigits⟩
  · simp only [List.length_append, List.length_nil]
    omega
  · obtain ⟨d, tail, rfl⟩ := List.exists_cons_of_ne_nil hne
    have hfraction : fraction ('.' :: d :: tail ++ behind) =
        ('.' :: d :: (tail ++ behind).takeWhile isDigit, (tail ++ behind).dropWhile isDigit) := by
      rw [List.cons_append, List.cons_append, fraction, if_pos (hdigits d List.mem_cons_self)]
    have htail : ∀ x ∈ tail, isDigit x = true := fun x hx => hdigits x (List.mem_cons_of_mem d hx)
    have hdot : isDigit '.' = false := by decide
    have hstop : ('.' :: d :: tail ++ behind).dropWhile isDigit = '.' :: d :: tail ++ behind := by
      rw [List.cons_append, List.dropWhile_cons, hdot]
      rfl
    rw [hstop, hfraction, List.takeWhile_append_of_pos htail]
    simp only [List.length_append, List.length_cons]
    omega

theorem scanNumber_error (hc : isDigit c = true) (h : scanNumber offset (c :: rest) = .error e) :
    ∃ text, e = .invalidNumber (String.ofList text) offset ∧ Numeral text ∧ text <+: c :: rest ∧
      ∀ longer, Numeral longer → longer <+: c :: rest → longer.length ≤ text.length := by
  rcases hf : fraction ((c :: rest).dropWhile isDigit) with ⟨point, behind⟩
  obtain ⟨hsplit, hpoint, -⟩ := fraction_cut hf
  simp only [scanNumber, hf] at h
  split at h
  next => cases h
  next =>
    cases h
    refine ⟨_, rfl, ⟨_, point, rfl, ⟨by simp [hc], ?_⟩, hpoint⟩, ⟨behind, ?_⟩, fun longer hlonger hfront => ?_⟩
    · exact fun d hd => List.all_eq_true.mp List.all_takeWhile d hd
    · rw [List.append_assoc, ← hsplit, List.takeWhile_append_dropWhile]
    · have hle := hlonger.length_le hfront
      rwa [hf] at hle

/-! ## Tokens that cannot be read -/

/-- What an error reports stands in the text, where the token at `start` cannot be read. -/
inductive Blames (source : List Char) (start : Nat) : LexError → Prop where
  | unexpectedChar {c : Char} (hc : source[start]? = some c) : Blames source start (.unexpectedChar c start)
  /-- The suggestion is the character twice. -/
  | incomplete {c : Char} (hc : source[start]? = some c) :
      Blames source start (.incomplete c (String.ofList [c, c]) start)
  /-- No closing quote stands behind the quote at `start`. -/
  | unterminatedString {quote : Char} (hquote : quote = '\x22' ∨ quote = '\x27')
      (hopen : source[start]? = some quote)
      (hclosed : ∀ s text behind, QuotedText quote s text →
        source.drop (start + 1) ≠ text ++ quote :: behind) :
      Blames source start (.unterminatedString start)
  /-- A backslash stands in front of the character, inside a string that the quote at `start` opens. -/
  | invalidEscape {quote letter : Char} {s text behind : List Char} (hquote : quote = '\x22' ∨ quote = '\x27')
      (hopen : source.drop start = quote :: (text ++ '\\' :: letter :: behind))
      (htext : QuotedText quote s text) (hletter : unescape? letter = none) :
      Blames source start (.invalidEscape letter (start + text.length + 2))
  /-- The text reported is the longest numeral that begins at `start`. -/
  | invalidNumber {text : List Char} (hnumeral : Numeral text) (htext : text <+: source.drop start)
      (hlongest : ∀ longer, Numeral longer → longer <+: source.drop start → longer.length ≤ text.length) :
      Blames source start (.invalidNumber (String.ofList text) start)

/-- Only doubled symbols are errors by half. -/
theorem symbols_half : ∀ s ∈ symbols, ∀ suggestion, s.2 = .error suggestion →
    ∃ c, s.1 = [c] ∧ suggestion = String.ofList [c, c] := by
  simp only [symbols, List.forall_mem_cons]
  simp

theorem blames_of_scan (hdrop : source.drop start = c :: rest) (h : scan start c rest = .error e) :
    Blames source start e := by
  have hc : source[start]? = some c := by
    rw [← List.head?_drop, hdrop, List.head?_cons]
  have hbehind : source.drop (start + 1) = rest := by
    rw [← List.drop_drop, hdrop, List.drop_one, List.tail_cons]
  unfold scan at h
  split at h
  next => cases h
  next suggestion hsymbol =>
    cases h
    obtain ⟨s, hs, hl⟩ := Option.map_eq_some_iff.mp hsymbol
    have hfront : s.1.isPrefixOf (c :: rest) = true := by simpa using List.find?_some hs
    cases hsign : s.2 with
    | ok token => rw [hsign] at hl; cases hl
    | error suggestion' =>
      rw [hsign] at hl
      cases hl
      obtain ⟨d, htext, rfl⟩ := symbols_half s (List.mem_of_find?_eq_some hs) _ hsign
      rw [htext, List.isPrefixOf, Bool.and_eq_true, beq_iff_eq] at hfront
      rw [hfront.1]
      exact .incomplete hc
  split at h
  next hquote =>
    have hslash : c ≠ '\\' := by rcases hquote with rfl | rfl <;> decide
    rcases bind_eq_error.mp h with h | ⟨_, -, h⟩
    · rcases stringBody_error h with rfl | ⟨s, text, letter, behind, htext, rfl, hletter, rfl⟩
      · refine .unterminatedString hquote hc fun s text behind htext heq => ?_
        rw [hbehind] at heq
        obtain ⟨stop, hread⟩ := htext.stringBody hslash behind start (start + 1)
        rw [heq, hread] at h
        cases h
      · have hoffset : start + 1 + text.length + 1 = start + text.length + 2 := by omega
        rw [hoffset]
        exact .invalidEscape hquote hdrop htext hletter
    · cases h
  split at h
  next => cases h
  split at h
  next hdigit =>
    obtain ⟨text, rfl, hnumeral, htext, hlongest⟩ := scanNumber_error hdigit h
    rw [← hdrop] at htext hlongest
    exact .invalidNumber hnumeral htext hlongest
  next =>
    cases h
    exact .unexpectedChar hc

/-- The character that an error reports, if it reports one. -/
def LexError.char? : LexError → Option Char
  | unexpectedChar c _ | incomplete c _ _ | invalidEscape c _ => some c
  | unterminatedString _ | invalidNumber .. => none

/-- The character that is reported stands where the error is. -/
theorem Blames.getElem (h : Blames source start e) : ∀ c ∈ e.char?, source[e.offset]? = some c := by
  rintro c hchar
  cases h with
  | unexpectedChar hc => cases hchar; exact hc
  | incomplete hc => cases hchar; exact hc
  | @invalidEscape quote letter s text behind hquote hopen htext hletter =>
    cases hchar
    have hplace : (source.drop start)[text.length + 2]? = some c := by
      rw [hopen]
      simp
    rw [List.getElem?_drop] at hplace
    exact hplace
  | unterminatedString | invalidNumber => cases hchar

/-- What is blamed is inside the text. -/
theorem Blames.bounds (h : Blames source start e) : start ≤ e.offset ∧ e.offset < source.length := by
  cases h with
  | unexpectedChar hc => exact ⟨Nat.le_refl _, (List.getElem?_eq_some_iff.mp hc).1⟩
  | incomplete hc => exact ⟨Nat.le_refl _, (List.getElem?_eq_some_iff.mp hc).1⟩
  | unterminatedString hquote hopen => exact ⟨Nat.le_refl _, (List.getElem?_eq_some_iff.mp hopen).1⟩
  | invalidEscape hquote hopen htext hletter =>
    have hlength := congrArg List.length hopen
    simp only [List.length_drop, List.length_cons, List.length_append] at hlength
    simp only [LexError.offset]
    omega
  | @invalidNumber text hnumeral htext hlongest =>
    obtain ⟨whole, point, rfl, ⟨hne, -⟩, -⟩ := hnumeral
    have hpos := List.length_pos_of_ne_nil hne
    have hle := htext.length_le
    simp only [List.length_drop, List.length_append] at hle
    simp only [LexError.offset]
    omega

/-! ## Runs that end in an error -/

theorem Lexes.blanks_append {bs : List Char} (hbs : ∀ b ∈ bs, isBlank b = true) (h : Lexes cs ts) :
    Lexes (bs ++ cs) ts := by
  induction bs with
  | nil => exact h
  | cons b bs ih =>
    obtain ⟨hb, hbs⟩ := List.forall_mem_cons.mp hbs
    exact .blank hb (ih hbs)

/-- The blanks in front of a token can be added to a text. -/
theorem lexes_extract_blanks {stop : Nat} (hstop : skipBlanks source position ≤ stop)
    (h : Lexes (source.extract (skipBlanks source position) stop) ts) :
    Lexes (source.extract position stop) ts := by
  have hsize : stop - position = ((source.drop position).takeWhile isBlank).length +
      (stop - skipBlanks source position) := by
    rw [skipBlanks] at hstop ⊢
    omega
  have hcut : ((source.drop position).takeWhile isBlank ++ (source.drop position).dropWhile isBlank).take
      (((source.drop position).takeWhile isBlank).length + (stop - skipBlanks source position)) =
        (source.drop position).takeWhile isBlank ++
          ((source.drop position).dropWhile isBlank).take (stop - skipBlanks source position) :=
    List.take_length_add_append _
  rw [List.takeWhile_append_dropWhile, ← hsize, ← drop_skipBlanks] at hcut
  rw [List.extract_eq_take_drop, hcut]
  exact h.blanks_append fun b hb => List.all_eq_true.mp List.all_takeWhile b hb

/-- A run that ends in an error has read all that is in front of the token that cannot be read. -/
theorem TokenRun.fault_start {lexed : Lexed} (h : TokenRun source position lexed) (hfault : lexed.fault = some e) :
    ∃ start, position ≤ start ∧ Blames source start e ∧
      Lexes (source.extract position start) lexed.tokens := by
  induction h with
  | finish h => cases hfault
  | @fault position e' h =>
    cases hfault
    obtain ⟨c, rest, hdrop, hl⟩ := nextToken_eq_error h
    refine ⟨skipBlanks source position, Nat.le_add_right _ _, blames_of_scan hdrop hl, ?_⟩
    refine lexes_extract_blanks (Nat.le_refl _) ?_
    rw [List.extract_eq_take_drop, Nat.sub_self, List.take_zero]
    exact .nil
  | @token position p lexed h _ ih =>
    obtain ⟨start, hle, hblames, hlexes⟩ := ih hfault
    obtain ⟨hstart, hlt, -⟩ := nextToken_bounds h
    have hskip := (nextToken_spec h).1
    refine ⟨start, by omega, hblames, lexes_extract_blanks (by omega) ?_⟩
    rw [← hskip]
    exact lexes_extract h hle hlexes

/-- **Lexical errors point at what cannot be read**: an error is inside the text, the text in front of the
token that it blames is read to the end, and what it reports stands where it says. -/
theorem tokenize_error_blames (h : tokenize source = .error e) :
    e.offset < source.length ∧ (∀ c ∈ e.char?, source[e.offset]? = some c) ∧
      ∃ start ≤ e.offset, tokenize (source.take start) = .ok (lex source).tokens ∧ Blames source start e := by
  have hfault : (lex source).fault = some e := by
    rw [tokenize] at h
    cases hlex : (lex source).fault with
    | none => simp only [hlex] at h; cases h
    | some e' => simp only [hlex] at h; cases h; rfl
  obtain ⟨start, -, hblames, hlexes⟩ := (tokenRun_lexFrom source 0).fault_start hfault
  obtain ⟨hle, hlt⟩ := hblames.bounds
  refine ⟨hlt, hblames.getElem, start, hle, tokenize_eq_ok_iff.mpr ?_, hblames⟩
  rwa [List.extract_eq_take_drop, List.drop_zero, Nat.sub_zero] at hlexes

/-- An escape that there is not, behind a letter of several bytes. -/
theorem tokenize_error_blames_escape :
    let source := "r => r.city == 'Köln\\q'".toList
    let e := LexError.invalidEscape 'q' 21
    tokenize source = .error e ∧ e.offset < source.length ∧ (∀ c ∈ e.char?, source[e.offset]? = some c) ∧
      ∃ start ≤ e.offset, tokenize (source.take start) = .ok (lex source).tokens ∧ Blames source start e := by
  have h : tokenize "r => r.city == 'Köln\\q'".toList = .error (.invalidEscape 'q' 21) := by decide +kernel
  exact ⟨h, tokenize_error_blames h⟩

end RowQuery.Lambda
