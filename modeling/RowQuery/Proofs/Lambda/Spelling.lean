import RowQuery.Proofs.Lambda.Body
import RowQuery.Proofs.Lambda.Grammar
import RowQuery.Proofs.Lambda.Lexical

/-!
# Tokens as they are spelt

`SpeltOut ts cs` says that the text `cs` spells the tokens `ts`, with any blanks between them. Blanks may
be missing wherever the characters behind a token do not continue it (`Token.EndsBefore`). The scanner
finds every token that was spelt out (`SpeltOut.lexes`).
-/

namespace RowQuery.Lambda

open Text (isBlank isWordChar isWordStart)
open Number (isDigit)

/-! ## Spellings -/

/-- Words that are no names. -/
def keywords : List String := ["and", "or", "true", "false", "null", "return"]

/-- A name that is no keyword. -/
def Identifier (name : String) : Prop :=
  IsName name.toList ∧ name ∉ keywords

/-- Text of a token that is spelt in one way only. -/
def Token.fixedText? : Token → Option String
  | .bool true => some "true"
  | .bool false => some "false"
  | .null => some "null"
  | .returnWord => some "return"
  | .connective .and .word => some "and"
  | .connective .or .word => some "or"
  | .connective .and .symbol => some "&&"
  | .connective .or .symbol => some "||"
  | .comparison .equal => some "=="
  | .comparison .strictEqual => some "==="
  | .comparison .notEqual => some "!="
  | .comparison .strictNotEqual => some "!=="
  | .comparison .less => some "<"
  | .comparison .lessEqual => some "<="
  | .comparison .greater => some ">"
  | .comparison .greaterEqual => some ">="
  | .arrow => some "=>"
  | .plus => some "+"
  | .minus => some "-"
  | .star => some "*"
  | .slash => some "/"
  | .percent => some "%"
  | .bang => some "!"
  | .lparen => some "("
  | .rparen => some ")"
  | .dot => some "."
  | .comma => some ","
  | .semicolon => some ";"
  | .float _ | .int _ | .str _ | .ident _ => none

/-- Characters that have an escape, behind the letters of their escapes. -/
def escapes : List (Char × Char) :=
  [('n', '\n'), ('t', '\t'), ('r', '\r'), ('\\', '\\'), ('\x22', '\x22'), ('\x27', '\x27')]

/-- Text of some characters between quotes: any character may stand for itself but the quote and the
backslash. -/
inductive QuotedText (quote : Char) : List Char → List Char → Prop where
  | nil : QuotedText quote [] []
  | plain {c : Char} {cs text : List Char} (hquote : c ≠ quote) (hslash : c ≠ '\\')
      (h : QuotedText quote cs text) : QuotedText quote (c :: cs) (c :: text)
  | escape {letter c : Char} {cs text : List Char} (hletter : (letter, c) ∈ escapes)
      (h : QuotedText quote cs text) : QuotedText quote (c :: cs) ('\\' :: letter :: text)

/-- Texts of a token. -/
inductive Token.SpeltAs : Token → List Char → Prop where
  | fixed {t : Token} {text : String} (h : t.fixedText? = some text) : SpeltAs t text.toList
  | ident {name : String} (h : Identifier name) : SpeltAs (.ident name) name.toList
  | int {n : Int64} {digits : List Char} (hne : digits ≠ []) (hdigits : ∀ d ∈ digits, isDigit d = true)
      (hvalue : (Number.digitsValue digits : Int) = n.toInt) : SpeltAs (.int n) digits
  | str {s : String} {quote : Char} {text : List Char} (hquote : quote = '\x22' ∨ quote = '\x27')
      (h : QuotedText quote s.toList text) : SpeltAs (.str s) (quote :: (text ++ [quote]))

/-- The characters behind a token do not continue it. -/
def Token.EndsBefore (t : Token) (behind : List Char) : Prop :=
  match t with
  | .ident _ | .bool _ | .null | .returnWord | .connective _ .word =>
    ∀ c ∈ behind.head?, isWordChar c = false
  | .int _ =>
    (∀ c ∈ behind.head?, isDigit c = false) ∧ ∀ d rest, behind = '.' :: d :: rest → isDigit d = false
  | .comparison .equal | .comparison .notEqual | .comparison .less | .comparison .greater | .bang =>
    behind.head? ≠ some '='
  | .comparison .strictEqual | .comparison .strictNotEqual | .comparison .lessEqual
  | .comparison .greaterEqual | .connective _ .symbol | .arrow | .plus | .minus | .star | .slash | .percent
  | .lparen | .rparen | .dot | .comma | .semicolon | .float _ | .str _ => True

/-- A text that spells tokens one after the other, with blanks between them. -/
inductive SpeltOut : List Token → List Char → Prop where
  | nil : SpeltOut [] []
  | blank {c : Char} {cs : List Char} {ts : List Token} (hc : isBlank c = true) (h : SpeltOut ts cs) :
      SpeltOut ts (c :: cs)
  | token {t : Token} {text cs : List Char} {ts : List Token} (ht : t.SpeltAs text) (hends : t.EndsBefore cs)
      (h : SpeltOut ts cs) : SpeltOut (t :: ts) (text ++ cs)

/-! ## Scanning a token that was spelt -/

variable {c quote : Char} {text behind cs : List Char} {t : Token} {ts : List Token}

/-- The scanner reads `t` off the text, and stops in front of the characters behind it. -/
def Scans (t : Token) (text behind : List Char) : Prop :=
  ∃ c tail n, text = c :: tail ∧ isBlank c = false ∧ scan 0 c (tail ++ behind) = .ok ⟨t, n, behind⟩

theorem symbols_first : ∀ s ∈ symbols, ∃ d tail, s.1 = d :: tail ∧
    isWordChar d = false ∧ d ≠ '\x22' ∧ d ≠ '\x27' := by
  have hall : symbols.all (fun s => !s.1.isEmpty && s.1.head?.all fun d =>
      !isWordChar d && d != '\x22' && d != '\x27') = true := by decide
  intro s hs
  have hfirst := List.all_eq_true.mp hall s hs
  obtain ⟨text, sign⟩ := s
  cases text with
  | nil => cases hfirst
  | cons d tail =>
    refine ⟨d, tail, rfl, ?_⟩
    simpa [and_assoc] using hfirst

/-- No symbol starts like a word, a number or a string. -/
theorem scanSymbol_eq_none (hc : isWordChar c = true ∨ c = '\x22' ∨ c = '\x27') (rest : List Char) :
    scanSymbol? (c :: rest) = none := by
  simp only [scanSymbol?, Option.map_eq_none_iff, List.find?_eq_none]
  intro s hs hfront
  obtain ⟨d, tail, htext, hword, hdouble, hsingle⟩ := symbols_first s hs
  rw [htext, List.isPrefixOf, Bool.and_eq_true, beq_iff_eq] at hfront
  obtain rfl := hfront.1
  rcases hc with hc | hc | hc
  · rw [hword] at hc
    cases hc
  · exact hdouble hc
  · exact hsingle hc

theorem isBlank_eq_false (hc : isWordChar c = true) : isBlank c = false := by
  by_contra hblank
  have := Text.isWordChar_of_isBlank (Bool.of_not_eq_false hblank)
  rw [hc] at this
  cases this

theorem ne_quotes (hc : isWordChar c = true) : ¬ (c = '\x22' ∨ c = '\x27') := by
  rintro (rfl | rfl) <;> cases hc

theorem scans_word (hname : IsName text) (hword : wordToken (String.ofList text) = t)
    (hends : ∀ c ∈ behind.head?, isWordChar c = false) : Scans t text behind := by
  obtain ⟨c, tail, rfl, hc, htail⟩ := hname
  have hcword := Text.isWordChar_of_isWordStart hc
  have hall : ∀ d ∈ c :: tail, isWordChar d = true := List.forall_mem_cons.mpr ⟨hcword, htail⟩
  obtain ⟨htake, hdrop⟩ := Number.takeWhile_of_head hall hends
  refine ⟨c, tail, (c :: tail).length, rfl, isBlank_eq_false hcword, ?_⟩
  rw [scan, scanSymbol_eq_none (.inl hcword)]
  simp only [if_neg (ne_quotes hcword), if_pos hc, ← List.cons_append, scanWord, htake, hdrop, hword]

theorem wordToken_name {name : String} (h : name ∉ keywords) : wordToken name = .ident name := by
  simp only [keywords, List.mem_cons, List.not_mem_nil, or_false, not_or] at h
  simp only [wordToken, if_neg h.1, if_neg h.2.1, if_neg h.2.2.1, if_neg h.2.2.2.1, if_neg h.2.2.2.2.1,
    if_neg h.2.2.2.2.2]

theorem isWordStart_eq_false (hc : isDigit c = true) : isWordStart c = false := by
  have hle : c.toNat < 128 := by
    simp only [isDigit, Bool.and_eq_true, decide_eq_true_eq] at hc
    exact Nat.lt_of_le_of_lt hc.2 (by decide)
  have hascii : ∀ n < 128, isDigit (Char.ofNat n) = true → isWordStart (Char.ofNat n) = false := by decide
  simpa using hascii c.toNat hle (by simpa using hc)

theorem scans_int {n : Int64} {digits : List Char} (hne : digits ≠ [])
    (hdigits : ∀ d ∈ digits, isDigit d = true) (hvalue : (Number.digitsValue digits : Int) = n.toInt)
    (hends : (Token.int n).EndsBefore behind) : Scans (.int n) digits behind := by
  obtain ⟨c, tail, rfl⟩ := List.exists_cons_of_ne_nil hne
  have hc := hdigits c List.mem_cons_self
  have hcword := isWordChar_of_isDigit hc
  obtain ⟨htake, hdrop⟩ := Number.takeWhile_of_head hdigits hends.1
  have hfraction : fraction behind = ([], behind) := by
    unfold fraction
    split
    next d rest => rw [if_neg (by simp [hends.2 d rest rfl])]
    next => rfl
  have hread : Number.int64? (c :: tail) = some n := by
    rw [Number.int64_digits hne hdigits, hvalue, Number.int64OfInt_toInt]
  refine ⟨c, tail, (c :: tail).length, rfl, isBlank_eq_false hcword, ?_⟩
  rw [scan, scanSymbol_eq_none (.inl hcword)]
  simp only [if_neg (ne_quotes hcword), isWordStart_eq_false hc, Bool.false_eq_true, if_false, if_pos hc,
    ← List.cons_append, scanNumber, htake, hdrop, hfraction, List.append_nil, List.isEmpty_nil, if_true, hread,
    Option.map_some]

theorem unescape_of_mem {letter : Char} (h : (letter, c) ∈ escapes) : unescape? letter = some c := by
  simp only [escapes, List.mem_cons, Prod.mk.injEq, List.not_mem_nil, or_false] at h
  rcases h with ⟨rfl, rfl⟩ | ⟨rfl, rfl⟩ | ⟨rfl, rfl⟩ | ⟨rfl, rfl⟩ | ⟨rfl, rfl⟩ | ⟨rfl, rfl⟩ <;> rfl

theorem QuotedText.stringBody (h : QuotedText quote cs text) (hquote : quote ≠ '\\')
    (behind : List Char) (start offset : Nat) :
    ∃ stop, Lambda.stringBody quote start offset (text ++ quote :: behind) = .ok (cs, stop, behind) := by
  induction h generalizing offset with
  | nil =>
    refine ⟨offset + 1, ?_⟩
    cases behind <;> simp [Lambda.stringBody]
  | @plain c cs text hc hslash h ih =>
    obtain ⟨stop, hstop⟩ := ih (offset + 1)
    obtain ⟨d, more, hmore⟩ : ∃ d more, text ++ quote :: behind = d :: more :=
      List.exists_cons_of_ne_nil (by simp)
    refine ⟨stop, ?_⟩
    rw [List.cons_append, hmore, Lambda.stringBody, if_neg hc, if_neg hslash, ← hmore, hstop]
    rfl
  | @escape letter c cs text hletter h ih =>
    obtain ⟨stop, hstop⟩ := ih (offset + 2)
    refine ⟨stop, ?_⟩
    rw [List.cons_append, List.cons_append, Lambda.stringBody, if_neg hquote.symm, if_pos rfl,
      unescape_of_mem hletter]
    simp only [hstop]
    rfl

theorem scans_str {s : String} (hquote : quote = '\x22' ∨ quote = '\x27') (h : QuotedText quote s.toList text) :
    Scans (.str s) (quote :: (text ++ [quote])) behind := by
  have hslash : quote ≠ '\\' := by rcases hquote with rfl | rfl <;> decide
  have hblank : isBlank quote = false := by rcases hquote with rfl | rfl <;> decide
  obtain ⟨stop, hstop⟩ := h.stringBody hslash behind 0 1
  refine ⟨quote, _, stop, rfl, hblank, ?_⟩
  rw [scan, scanSymbol_eq_none (.inr hquote)]
  simp only [if_pos hquote, scanString, List.append_assoc, List.singleton_append, hstop, Nat.zero_add]
  rw [ok_bind, String.ofList_toList]
  rfl

/-- A symbol is read if it is the first of the table that the text starts with. -/
theorem scans_symbol (c : Char) (tail : List Char) (hblank : isBlank c = false)
    (hfirst : symbols.find? (fun s => s.1.isPrefixOf (c :: (tail ++ behind))) = some (c :: tail, .ok t)) :
    Scans t (c :: tail) behind := by
  refine ⟨c, tail, tail.length + 1, rfl, hblank, ?_⟩
  have hsymbol : scanSymbol? (c :: (tail ++ behind)) = some (.ok ⟨t, tail.length + 1, behind⟩) := by
    rw [scanSymbol?, hfirst]
    simp [Except.map]
  rw [scan, hsymbol]

theorem isPrefixOf_equals (hends : behind.head? ≠ some '=') (more : List Char) :
    ('=' :: more).isPrefixOf behind = false := by
  cases behind with
  | nil => rfl
  | cons d rest =>
    have hd : '=' ≠ d := fun hd => hends (congrArg some hd.symm)
    simp [List.isPrefixOf, hd]

/-- Tokens that are spelt in one way are words, or symbols. -/
theorem scans_fixed {text : String} (h : t.fixedText? = some text) (hends : t.EndsBefore behind) :
    Scans t text.toList behind := by
  cases t with
  | bool b => cases b <;> cases h <;> exact scans_word (isName_cons (by decide) (by decide)) rfl hends
  | null | returnWord => cases h; exact scans_word (isName_cons (by decide) (by decide)) rfl hends
  | connective op spelling =>
    cases spelling with
    | word => cases op <;> cases h <;> exact scans_word (isName_cons (by decide) (by decide)) rfl hends
    | symbol => cases op <;> cases h <;> exact scans_symbol _ _ (by decide) rfl
  | comparison op =>
    cases op with
    -- a longer symbol that goes on with `=` stands in front of these in the table
    | less => cases h; exact scans_symbol '<' [] rfl (by simp [symbols, isPrefixOf_equals hends])
    | greater => cases h; exact scans_symbol '>' [] rfl (by simp [symbols, isPrefixOf_equals hends])
    | equal => cases h; exact scans_symbol '=' ['='] rfl (by simp [symbols, isPrefixOf_equals hends])
    | notEqual => cases h; exact scans_symbol '!' ['='] rfl (by simp [symbols, isPrefixOf_equals hends])
    | lessEqual | greaterEqual | strictEqual | strictNotEqual =>
      cases h
      exact scans_symbol _ _ (by decide) rfl
  | bang => cases h; exact scans_symbol '!' [] rfl (by simp [symbols, isPrefixOf_equals hends])
  | arrow | plus | minus | star | slash | percent | lparen | rparen | dot | comma | semicolon =>
    cases h
    exact scans_symbol _ _ (by decide) rfl
  | float | int | str | ident => cases h

theorem Token.SpeltAs.scans (h : t.SpeltAs text) (hends : t.EndsBefore behind) : Scans t text behind := by
  cases h with
  | fixed h => exact scans_fixed h hends
  | @ident name h =>
    refine scans_word h.1 ?_ hends
    rw [String.ofList_toList, wordToken_name h.2]
  | int hne hdigits hvalue => exact scans_int hne hdigits hvalue hends
  | str hquote h => exact scans_str hquote h

/-- **A text that spells tokens out has these tokens.** -/
theorem SpeltOut.lexes (h : SpeltOut ts cs) : Lexes cs ts := by
  induction h with
  | nil => exact .nil
  | blank hc _ ih => exact .blank hc ih
  | token ht hends _ ih =>
    obtain ⟨c, tail, n, rfl, hc, hscan⟩ := ht.scans hends
    exact .token hc hscan ih

end RowQuery.Lambda
