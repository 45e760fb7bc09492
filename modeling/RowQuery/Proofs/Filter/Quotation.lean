import RowQuery.Filter.Parser
import RowQuery.Proofs.Failure
import RowQuery.Proofs.Filter.Spelling

/-!
# Strings inside a filter

A quoted string is one token wherever it stands in a filter, whatever its characters are
(`tokenize_quote`). No scanner passes a single quote that it has not opened itself, so that the tokens in
front of the string stay as they are (`spells_append`); inside the string every quote is doubled; and behind
it the text goes on where the string ends. The two neighbours must not touch the string with a quote of their
own: `''` would be a character of the string.
-/

namespace RowQuery.Filter

open Number (isDigit)
open Text (isBlank isWordChar)

variable {offset : Nat} {c : Char} {cs rest behind : List Char} {l : Lexeme} {ts ws : List Token}

/-- The end of a text, or a single quote. -/
def QuoteOrEnd (behind : List Char) : Prop :=
  ∀ c ∈ behind.head?, c = '\x27'

/-! ## Scanners in front of a quote -/

theorem numeral_append (hb : QuoteOrEnd behind) (cs : List Char) (isFloat afterMark : Bool) :
    numeral isFloat afterMark (cs ++ behind) =
      ((numeral isFloat afterMark cs).1, (numeral isFloat afterMark cs).2.1,
        (numeral isFloat afterMark cs).2.2 ++ behind) := by
  induction cs generalizing isFloat afterMark with
  | nil =>
    cases behind with
    | nil => rfl
    | cons c behind =>
      obtain rfl := hb c rfl
      have hdigit : isDigit '\x27' = false := by decide
      simp [numeral, hdigit]
  | cons c cs ih =>
    rw [List.cons_append, numeral, numeral]
    simp only [ih]
    split_ifs <;> rfl

theorem numeral_split (cs : List Char) (isFloat afterMark : Bool) :
    (numeral isFloat afterMark cs).1 ++ (numeral isFloat afterMark cs).2.2 = cs := by
  induction cs generalizing isFloat afterMark with
  | nil => rfl
  | cons c cs ih =>
    rw [numeral]
    split_ifs
    · exact congrArg (c :: ·) (ih isFloat false)
    · exact congrArg (c :: ·) (ih true false)
    · exact congrArg (c :: ·) (ih true true)
    · exact congrArg (c :: ·) (ih isFloat false)
    · rfl

theorem scanNumber_suffix (h : scanNumber offset cs = .ok l) : l.rest <:+ cs := by
  simp only [scanNumber] at h
  split at h
  next => cases h; exact ⟨_, numeral_split cs false false⟩
  next => cases h

theorem scanNumber_append (hb : QuoteOrEnd behind) (h : scanNumber offset cs = .ok l) (offset' : Nat) :
    scanNumber offset' (cs ++ behind) = .ok ⟨l.token, l.length, l.rest ++ behind⟩ := by
  simp only [scanNumber] at h ⊢
  rw [numeral_append hb]
  split at h
  next token htoken =>
    cases h
    rw [htoken]
  next => cases h

/-- A string ends with a quote. -/
theorem stringBody_split {s rest : List Char} {n : Nat} (h : stringBody? cs = some (s, n, rest)) :
    ∃ taken, cs = taken ++ '\x27' :: rest := by
  fun_induction stringBody? cs generalizing s n rest with
  | case1 => cases h
  | case2 more ih =>
    obtain ⟨⟨s', n', r'⟩, hr, heq⟩ := Option.map_eq_some_iff.1 h
    cases heq
    obtain ⟨taken, rfl⟩ := ih hr
    exact ⟨'\x27' :: '\x27' :: taken, rfl⟩
  | case3 => cases h; exact ⟨[], rfl⟩
  | case4 c more _ _ ih =>
    obtain ⟨⟨s', n', r'⟩, hr, heq⟩ := Option.map_eq_some_iff.1 h
    cases heq
    obtain ⟨taken, rfl⟩ := ih hr
    exact ⟨c :: taken, rfl⟩

theorem stringBody_append {s rest : List Char} {n : Nat} (h : stringBody? cs = some (s, n, rest))
    (hrest : rest = [] → behind.head? ≠ some '\x27') :
    stringBody? (cs ++ behind) = some (s, n, rest ++ behind) := by
  fun_induction stringBody? cs generalizing s n rest with
  | case1 => cases h
  | case2 more ih =>
    obtain ⟨⟨s', n', r'⟩, hr, heq⟩ := Option.map_eq_some_iff.1 h
    cases heq
    simp only [List.cons_append, stringBody?, ih hr hrest, Option.map_some]
  | case3 more hquote =>
    cases h
    rw [List.cons_append, stringBody?, if_pos rfl]
    intro tail _ heq
    cases more with
    | nil =>
      refine hrest rfl ?_
      rw [List.nil_append] at heq
      rw [heq]
      rfl
    | cons d more =>
      cases heq
      exact hquote more rfl rfl
  | case4 c more hne hquote ih =>
    obtain ⟨⟨s', n', r'⟩, hr, heq⟩ := Option.map_eq_some_iff.1 h
    cases heq
    rw [List.cons_append, stringBody?, if_neg hquote, ih hr hrest]
    · rfl
    · intro tail hc
      exact absurd hc hquote

theorem takeWhile_append_quote {p : Char → Bool} (hp : p '\x27' = false) (hb : QuoteOrEnd behind)
    (cs : List Char) :
    (cs ++ behind).takeWhile p = cs.takeWhile p ∧ (cs ++ behind).dropWhile p = cs.dropWhile p ++ behind := by
  induction cs with
  | nil =>
    cases behind with
    | nil => exact ⟨rfl, rfl⟩
    | cons c behind =>
      obtain rfl := hb c rfl
      simp [hp]
  | cons c cs ih =>
    cases hc : p c with
    | true => simp [hc, ih]
    | false => simp [hc]

/-- A text that starts with a quote does not change the token in front of it, unless a quote stands there
too. -/
theorem scan_append (hb : QuoteOrEnd behind) (h : scan offset c rest = .ok l)
    (hlast : behind ≠ [] → (c :: rest).getLast? ≠ some '\x27') :
    l.rest <:+ c :: rest ∧
      ∀ offset', scan offset' c (rest ++ behind) = .ok ⟨l.token, l.length, l.rest ++ behind⟩ := by
  unfold scan at h ⊢
  split at h
  next => cases h; exact ⟨List.suffix_cons c rest, fun _ => rfl⟩
  next =>
    split at h
    next hquote =>
      split at h
      next s n more hs =>
        cases h
        obtain ⟨taken, rfl⟩ := stringBody_split hs
        have hrest : more = [] → behind.head? ≠ some '\x27' := by
          rintro rfl hhead
          refine hlast (by rintro rfl; cases hhead) ?_
          rw [← List.cons_append, List.getLast?_concat]
        refine ⟨⟨c :: (taken ++ ['\x27']), by simp⟩, fun _ => ?_⟩
        simp only [if_pos hquote, stringBody_append hs hrest]
      next => cases h
    next hquote =>
      split at h
      next hd =>
        simp only [if_neg hquote, if_pos hd]
        exact ⟨scanNumber_suffix h, scanNumber_append hb h⟩
      next hd =>
        split at h
        next hw =>
          cases h
          obtain ⟨htake, hdrop⟩ := takeWhile_append_quote (p := isWordChar) (by decide) hb rest
          refine ⟨(List.dropWhile_suffix _).trans (List.suffix_cons c rest), fun _ => ?_⟩
          simp only [if_neg hquote, if_neg hd, if_pos hw, htake, hdrop]
        next => cases h

/-! ## Texts in front of a quote -/

/-- The tokens of a text stay as they are when a text is put behind it that starts with a quote. -/
theorem spells_append (h : tokensFrom offset cs = .ok ts) (hb : QuoteOrEnd behind)
    (hlast : behind ≠ [] → cs.getLast? ≠ some '\x27') (hspells : Spells behind ws) :
    Spells (cs ++ behind) (ts ++ ws) := by
  induction hn : cs.length using Nat.strongRecOn generalizing cs offset ts with
  | ind n ih =>
    subst hn
    cases cs with
    | nil =>
      rw [tokensFrom_eq] at h
      cases h
      exact hspells
    | cons c rest =>
      cases hc : isBlank c with
      | true =>
        rw [tokensFrom_blank hc] at h
        refine spells_blank hc (ih rest.length (by simp) h (fun hne hrest => hlast hne ?_) rfl)
        rw [List.getLast?_cons, hrest]
        rfl
      | false =>
        rw [tokensFrom_cons hc] at h
        cases hl : scan offset c rest with
        | error e => rw [hl] at h; cases h
        | ok l =>
          rw [hl] at h
          obtain ⟨ts, hts, rfl⟩ := map_eq_ok.mp h
          obtain ⟨⟨taken, htaken⟩, hscan⟩ := scan_append hb hl hlast
          refine spells_token hc (fun offset' => ⟨l.length, hscan offset'⟩)
            (ih l.rest.length (scan_length hl) hts (fun hne hrest => hlast hne ?_) rfl)
          rw [← htaken, List.getLast?_append, hrest]
          rfl

theorem spells_of_tokenize {text : String} (h : tokenize text = .ok ts) : Spells text.toList ts := by
  have happend : Spells (text.toList ++ []) (ts ++ []) :=
    spells_append h (by simp [QuoteOrEnd]) (fun hne => absurd rfl hne) spells_nil
  rwa [List.append_nil, List.append_nil] at happend

/-- **A quoted string is one token, and stays so between any two texts.** Neither of them may touch it with a
quote, which a text does not do that is empty or ends in a blank, a parenthesis or a minus sign. A text that
can be read has no string open at its end. By itself, a quoted string is a filter that is this string. -/
theorem tokenize_quote (s : String) {before behind : String} (hbefore : tokenize before = .ok ts)
    (hlast : before.toList.getLast? ≠ some '\x27') (hbehind : tokenize behind = .ok ws)
    (hfirst : behind.toList.head? ≠ some '\x27') :
    tokenize (before ++ quote s ++ behind) = .ok (ts ++ .str s :: ws) ∧
      parse (quote s) = .ok (.literal (.str s)) := by
  constructor
  · have hstring := spells_quote s hfirst (spells_of_tokenize hbehind)
    have hstart : QuoteOrEnd ((quote s).toList ++ behind.toList) := by
      intro c hc
      simpa [quote, eq_comm] using hc
    have hspells := spells_append hbefore hstart (fun _ => hlast) hstring
    rw [tokenize, String.toList_append, String.toList_append, List.append_assoc]
    exact hspells 0
  · have hstring : Spells ((quote s).toList ++ []) [.str s] := spells_quote s (by simp) spells_nil
    rw [List.append_nil] at hstring
    rw [parse, tokenize, hstring 0]
    rfl

/-- A string that tries to end itself and to go on as a filter. -/
theorem tokenize_quote_intruder :
    tokenize "not (name eq " = .ok [.word "not", .lparen, .word "name", .word "eq"] ∧
      tokenize ") and -1 lt age" = .ok [.rparen, .word "and", .minus, .int 1, .word "lt", .word "age"] ∧
      tokenize ("not (name eq " ++ quote "' or 'a' eq 'a" ++ ") and -1 lt age") =
        .ok [.word "not", .lparen, .word "name", .word "eq", .str "' or 'a' eq 'a", .rparen, .word "and",
          .minus, .int 1, .word "lt", .word "age"] ∧
      parse (quote "' or 'a' eq 'a") = .ok (.literal (.str "' or 'a' eq 'a")) := by
  have hbefore : tokenize "not (name eq " = .ok [.word "not", .lparen, .word "name", .word "eq"] := by
    decide +kernel
  have hbehind : tokenize ") and -1 lt age" =
      .ok [.rparen, .word "and", .minus, .int 1, .word "lt", .word "age"] := by
    decide +kernel
  exact ⟨hbefore, hbehind, tokenize_quote _ hbefore (by decide) hbehind (by decide)⟩

end RowQuery.Filter
