import Mathlib
import RowQuery.Lambda.Lexer

/-!
# Texts and their tokens

`Lexes cs ts` says that a text consists of the tokens `ts` with blanks between them, wherever the text
starts (`tokenize_eq_ok_iff`). A scanner never looks further than the first character it leaves: a token
stays the same when the text behind it is cut (`scan_cut`). Blanks at the end of a text therefore do not
matter (`Lexes.of_append_blanks`).
-/

namespace RowQuery.Lambda

open Text (isBlank isWordChar isWordStart)

variable {offset : Nat} {c quote : Char} {cs rest : List Char} {l : Lexeme}

/-! ## Cutting the text behind a token -/

theorem takeWhile_append_cut {p : Char → Bool} {xs r : List Char} (hr : r <+: xs.dropWhile p) :
    (xs.takeWhile p ++ r).takeWhile p = xs.takeWhile p ∧
      (xs.takeWhile p ++ r).dropWhile p = r := by
  have hall : ∀ x ∈ xs.takeWhile p, p x = true := fun x hx => List.all_eq_true.mp List.all_takeWhile x hx
  rw [List.takeWhile_append_of_pos hall, List.dropWhile_append_of_pos hall]
  have hstop : r.takeWhile p = [] ∧ r.dropWhile p = r := by
    cases r with
    | nil => exact ⟨rfl, rfl⟩
    | cons y ys =>
      obtain ⟨tail, htail⟩ := hr
      have hy : p y = false := by
        have := List.head_dropWhile_not p (l := xs) (by rw [← htail]; simp)
        simpa [← htail] using this
      simp [hy]
  rw [hstop.1, hstop.2, List.append_nil]
  exact ⟨rfl, rfl⟩

theorem stringBody_cut {start : Nat} {s behind : List Char} {stop : Nat}
    (h : stringBody quote start offset cs = .ok (s, stop, behind)) :
    ∃ taken, cs = taken ++ quote :: behind ∧ offset < stop ∧
      ∀ start' offset' r, stringBody quote start' offset' (taken ++ quote :: r) =
        .ok (s, stop - offset + offset', r) := by
  fun_induction stringBody quote start offset cs generalizing s stop behind with
  | case1 => cases h
  | case2 offset =>
    cases h
    refine ⟨[], rfl, by omega, fun start' offset' r => ?_⟩
    cases r <;> simp [stringBody, Nat.add_comm]
  | case3 => cases h
  | case4 offset d rest' =>
    cases h
    refine ⟨[], rfl, by omega, fun start' offset' r => ?_⟩
    cases r <;> simp [stringBody, Nat.add_comm]
  | case5 offset d rest' e he hq ih =>
    cases hb : stringBody quote start (offset + 2) rest' with
    | error e => rw [hb] at h; cases h
    | ok found =>
      obtain ⟨s', stop', r'⟩ := found
      rw [hb] at h
      cases h
      obtain ⟨taken, rfl, hlt, hcut⟩ := ih hb
      refine ⟨'\\' :: d :: taken, rfl, by omega, fun start' offset' r => ?_⟩
      have hstop : stop - (offset + 2) + (offset' + 2) = stop - offset + offset' := by omega
      simp only [List.cons_append, stringBody, if_neg hq, he, if_true, hcut, hstop]
      rfl
  | case6 => cases h
  | case7 offset c d rest' hq hb ih =>
    cases hrec : stringBody quote start (offset + 1) (d :: rest') with
    | error e => rw [hrec] at h; cases h
    | ok found =>
      obtain ⟨s', stop', r'⟩ := found
      rw [hrec] at h
      cases h
      obtain ⟨taken, htaken, hlt, hcut⟩ := ih hrec
      refine ⟨c :: taken, by rw [htaken]; rfl, by omega, fun start' offset' r => ?_⟩
      obtain ⟨d', tail, htail⟩ : ∃ d' tail, taken ++ quote :: r = d' :: tail := by
        cases taken with
        | nil => exact ⟨_, _, rfl⟩
        | cons x xs => exact ⟨_, _, rfl⟩
      have hshift := hcut start' (offset' + 1) r
      rw [htail] at hshift
      have hstop : stop - (offset + 1) + (offset' + 1) = stop - offset + offset' := by omega
      rw [List.cons_append, htail, stringBody, if_neg hq, if_neg hb, hshift, hstop]
      rfl

theorem scanSymbol_none (h : scanSymbol? (c :: rest) = none) (r : List Char) :
    scanSymbol? (c :: r) = none := by
  have hsingle : ∀ s ∈ symbols, ∃ s' ∈ symbols, s'.1 = s.1.take 1 ∧ s.1 ≠ [] := by decide
  simp only [scanSymbol?, Option.map_eq_none_iff, List.find?_eq_none] at h ⊢
  intro s hs hfront
  obtain ⟨s', hs', htake, hne⟩ := hsingle s hs
  obtain ⟨d, tail, htext⟩ := List.exists_cons_of_ne_nil hne
  rw [htext] at htake hfront
  refine h s' hs' ?_
  simp only [List.isPrefixOf, Bool.and_eq_true] at hfront
  simpa [htake] using hfront.1

theorem symbols_plain : ∀ s ∈ symbols, s.1 ≠ [] ∧ ∀ d ∈ s.1, isBlank d = false := by
  have hall : symbols.all (fun s => !s.1.isEmpty && s.1.all (!isBlank ·)) = true := by decide
  simpa using hall

theorem scanSymbol_cut (h : scanSymbol? (c :: rest) = some (.ok l)) :
    ∃ taken, rest = taken ++ l.rest ∧ (∀ d ∈ c :: taken, isBlank d = false) ∧
      ∀ r, r <+: l.rest → scanSymbol? (c :: (taken ++ r)) = some (.ok ⟨l.token, l.length, r⟩) := by
  obtain ⟨s, hs, hl⟩ := Option.map_eq_some_iff.1 h
  obtain ⟨hfront, before, behind, hsym, hbefore⟩ := List.find?_eq_some_iff_append.1 hs
  have hmem : s ∈ symbols := List.mem_of_find?_eq_some hs
  obtain ⟨text, sign⟩ := s
  cases sign with
  | error e => cases hl
  | ok token =>
    cases hl
    obtain ⟨hne, hblank⟩ := symbols_plain _ hmem
    obtain ⟨tail, htail⟩ := List.isPrefixOf_iff_prefix.1 hfront
    obtain ⟨d, taken, rfl⟩ := List.exists_cons_of_ne_nil hne
    cases htail
    refine ⟨taken, by simp, hblank, fun r hr => ?_⟩
    have hcut : symbols.find? (fun s => s.1.isPrefixOf (c :: (taken ++ r))) =
        some (c :: taken, .ok token) := by
      refine List.find?_eq_some_iff_append.2 ⟨by simp, before, behind, hsym, fun s hs => ?_⟩
      have := hbefore s hs
      simp only [Bool.not_eq_true', ← Bool.not_eq_true, List.isPrefixOf_iff_prefix] at this ⊢
      refine fun hp => this (hp.trans ?_)
      simpa using hr
    simp [scanSymbol?, hcut, Except.map]

theorem scanWord_cut (hc : isWordStart c = true) (rest : List Char) :
    ∃ taken, rest = taken ++ (scanWord (c :: rest)).rest ∧
      (∀ d ∈ c :: taken, isWordChar d = true) ∧
      ∀ r, r <+: (scanWord (c :: rest)).rest →
        scanWord (c :: (taken ++ r)) =
          ⟨(scanWord (c :: rest)).token, (scanWord (c :: rest)).length, r⟩ := by
  have hword := Text.isWordChar_of_isWordStart hc
  refine ⟨rest.takeWhile isWordChar, ?_, ?_, fun r hr => ?_⟩
  · simp [scanWord, hword, List.takeWhile_append_dropWhile]
  · intro d hd
    rcases List.mem_cons.mp hd with rfl | hd
    · exact hword
    · exact List.all_eq_true.mp List.all_takeWhile d hd
  · simp only [scanWord, List.dropWhile_cons, List.takeWhile_cons, hword, if_true] at hr ⊢
    obtain ⟨h1, h2⟩ := takeWhile_append_cut hr
    rw [h1, h2]

theorem isWordChar_of_isDigit {d : Char} (h : Number.isDigit d = true) : isWordChar d = true := by
  have hle : d.toNat < 128 := by
    simp only [Number.isDigit, Bool.and_eq_true, decide_eq_true_eq] at h
    exact Nat.lt_of_le_of_lt h.2 (by decide)
  have hascii : ∀ n < 128, Number.isDigit (Char.ofNat n) = true → isWordChar (Char.ofNat n) = true := by
    decide
  simpa using hascii d.toNat hle (by simpa using h)

/-- A fraction is empty, or a point and digits. -/
theorem fraction_cut {point behind : List Char} (h : fraction cs = (point, behind)) :
    cs = point ++ behind ∧
      (point = [] ∨ ∃ digits, point = '.' :: digits ∧ digits ≠ [] ∧
        ∀ d ∈ digits, Number.isDigit d = true) ∧
      ∀ r, r <+: behind → fraction (point ++ r) = (point, r) := by
  have hempty : ∀ r, (∀ d tail, r = '.' :: d :: tail → Number.isDigit d = false) →
      fraction r = ([], r) := by
    intro r hr
    unfold fraction
    split
    · next d tail => simp [hr d tail rfl]
    · rfl
  by_cases hpoint : ∃ d tail, cs = '.' :: d :: tail ∧ Number.isDigit d = true
  · obtain ⟨d, tail, rfl, hd⟩ := hpoint
    simp only [fraction, hd, if_true, Prod.mk.injEq] at h
    obtain ⟨rfl, rfl⟩ := h
    refine ⟨by simp [List.takeWhile_append_dropWhile], .inr ⟨_, rfl, by simp, ?_⟩, fun r hr => ?_⟩
    · intro x hx
      rcases List.mem_cons.mp hx with rfl | hx
      · exact hd
      · exact List.all_eq_true.mp List.all_takeWhile x hx
    · obtain ⟨h1, h2⟩ := takeWhile_append_cut hr
      simp only [List.cons_append, fraction, hd, if_true, h1, h2]
  · have hcs := hempty cs fun d tail hcs => by
      by_contra hd
      exact hpoint ⟨d, tail, hcs, by simpa using hd⟩
    rw [hcs] at h
    cases h
    refine ⟨rfl, .inl rfl, fun r hr => hempty r fun d tail hr' => ?_⟩
    obtain ⟨more, rfl⟩ := hr
    by_contra hd
    exact hpoint ⟨d, tail ++ more, by simp [hr'], by simpa using hd⟩

theorem scanNumber_cut (hc : Number.isDigit c = true)
    (h : scanNumber offset (c :: rest) = .ok l) :
    ∃ taken, rest = taken ++ l.rest ∧ (∀ d ∈ c :: taken, isBlank d = false) ∧
      ∀ offset' r, r <+: l.rest →
        scanNumber offset' (c :: (taken ++ r)) = .ok ⟨l.token, l.length, r⟩ := by
  let whole := (c :: rest).takeWhile Number.isDigit
  rcases hf : fraction ((c :: rest).dropWhile Number.isDigit) with ⟨point, behind⟩
  obtain ⟨hsplit, hshape, hcut⟩ := fraction_cut hf
  obtain ⟨taken, htaken⟩ : ∃ taken, whole ++ point = c :: taken := by
    simp [whole, hc]
  have hrest : c :: rest = c :: (taken ++ behind) := by
    rw [← List.cons_append, ← htaken, List.append_assoc, ← hsplit, List.takeWhile_append_dropWhile]
  have hdigit : ∀ d ∈ whole, Number.isDigit d = true := fun d hd =>
    List.all_eq_true.mp List.all_takeWhile d hd
  simp only [scanNumber, hf] at h
  split at h
  case h_2 => cases h
  next token htoken =>
  cases h
  refine ⟨taken, by simpa using hrest, ?_, fun offset' r hr => ?_⟩
  · rw [← htaken]
    intro d hd
    have hnotBlank : ∀ d, Number.isDigit d = true → isBlank d = false := fun d hd => by
      by_contra hb
      have := Text.isWordChar_of_isBlank (c := d) (by simpa using hb)
      rw [isWordChar_of_isDigit hd] at this
      cases this
    rcases List.mem_append.mp hd with hd | hd
    · exact hnotBlank d (hdigit d hd)
    · rcases hshape with rfl | ⟨digits, rfl, -, hall⟩
      · cases hd
      · rcases List.mem_cons.mp hd with rfl | hd
        · decide
        · exact hnotBlank d (hall d hd)
  · -- the digits end in front of the point, or in front of the cut text
    have hstop : (point ++ r).takeWhile Number.isDigit = [] ∧
        (point ++ r).dropWhile Number.isDigit = point ++ r := by
      rcases hshape with rfl | ⟨digits, rfl, -, -⟩
      · have hr' : r <+: (c :: rest).dropWhile Number.isDigit := by rw [hsplit]; exact hr
        obtain ⟨h1, h2⟩ := takeWhile_append_cut hr'
        rw [List.takeWhile_append_of_pos hdigit] at h1
        rw [List.dropWhile_append_of_pos hdigit] at h2
        exact ⟨by simpa [whole] using h1, h2⟩
      · exact ⟨rfl, rfl⟩
    have hcons : c :: (taken ++ r) = whole ++ (point ++ r) := by
      rw [← List.cons_append, ← htaken, List.append_assoc]
    have h1 : (c :: (taken ++ r)).takeWhile Number.isDigit = whole := by
      rw [hcons, List.takeWhile_append_of_pos hdigit, hstop.1, List.append_nil]
    have h2 : (c :: (taken ++ r)).dropWhile Number.isDigit = point ++ r := by
      rw [hcons, List.dropWhile_append_of_pos hdigit, hstop.2]
    simp only [scanNumber, h1, h2, hcut r hr]
    rw [htoken]

theorem scan_cut (h : scan offset c rest = .ok l) :
    ∃ taken, rest = taken ++ l.rest ∧
      (isBlank c = false → ∀ d ∈ (c :: taken).getLast?, isBlank d = false) ∧
      ∀ offset' r, r <+: l.rest → scan offset' c (taken ++ r) = .ok ⟨l.token, l.length, r⟩ := by
  unfold scan at h
  split at h
  case h_1 l' hsym =>
    cases h
    obtain ⟨taken, hrest, hblank, hcut⟩ := scanSymbol_cut hsym
    refine ⟨taken, hrest, fun _ d hd => hblank d (List.mem_of_getLast? hd), fun offset' r hr => ?_⟩
    rw [scan, hcut r hr]
  case h_2 => cases h
  next hsym =>
  have hnone := scanSymbol_none hsym
  split at h
  next hq =>
    unfold scanString at h
    cases hb : stringBody c offset (offset + 1) rest with
    | error e => rw [hb] at h; cases h
    | ok found =>
      obtain ⟨s, stop, behind⟩ := found
      rw [hb] at h
      cases h
      obtain ⟨taken, rfl, hlt, hcut⟩ := stringBody_cut hb
      refine ⟨taken ++ [c], by simp, fun hc d hd => ?_, fun offset' r _ => ?_⟩
      · have hlast : (c :: (taken ++ [c])).getLast? = some c := by
          rw [← List.cons_append, List.getLast?_concat]
        cases hlast.symm.trans hd
        exact hc
      · have hstop : stop - (offset + 1) + (offset' + 1) - offset' = stop - offset := by omega
        rw [scan, hnone]
        simp only [if_pos hq, List.append_assoc, List.singleton_append, scanString, hcut, ← hstop]
        rfl
  next hq =>
  split at h
  next hw =>
    cases h
    obtain ⟨taken, hrest, hall, hcut⟩ := scanWord_cut hw rest
    refine ⟨taken, hrest, fun _ d hd => ?_, fun offset' r hr => ?_⟩
    · by_contra hb
      have := Text.isWordChar_of_isBlank (c := d) (by simpa using hb)
      rw [hall d (List.mem_of_getLast? hd)] at this
      cases this
    · rw [scan, hnone]
      simp only [if_neg hq, if_pos hw, hcut r hr]
  next hw =>
  split at h
  next hd =>
    obtain ⟨taken, hrest, hblank, hcut⟩ := scanNumber_cut hd h
    refine ⟨taken, hrest, fun _ d hd => hblank d (List.mem_of_getLast? hd), fun offset' r hr => ?_⟩
    rw [scan, hnone]
    simp only [if_neg hq, if_neg hw, if_pos hd, hcut offset' r hr]
  next => cases h

/-- Where a token starts does not matter. -/
theorem scan_offset (h : scan offset c rest = .ok l) (offset' : Nat) :
    scan offset' c rest = .ok l := by
  obtain ⟨taken, hrest, -, hcut⟩ := scan_cut h
  have := hcut offset' l.rest List.prefix_rfl
  rwa [← hrest] at this

/-! ## Tokens of a text -/

/-- The text consists of the tokens, with blanks between them. -/
inductive Lexes : List Char → List Token → Prop where
  | nil : Lexes [] []
  | blank {c : Char} {rest : List Char} {ts : List Token} (hc : isBlank c = true)
      (h : Lexes rest ts) : Lexes (c :: rest) ts
  | token {c : Char} {rest : List Char} {l : Lexeme} {ts : List Token} (hc : isBlank c = false)
      (hl : scan 0 c rest = .ok l) (h : Lexes l.rest ts) : Lexes (c :: rest) (l.token :: ts)

theorem lexFrom_eq (offset : Nat) (cs : List Char) :
    lexFrom offset cs =
      match cs.dropWhile isBlank with
      | [] => ⟨[], none⟩
      | c :: rest =>
        let start := offset + (cs.takeWhile isBlank).length
        match scan start c rest with
        | .error e => ⟨[], some e⟩
        | .ok l =>
          ⟨⟨l.token, start, start + l.length⟩ :: (lexFrom (start + l.length) l.rest).placed,
            (lexFrom (start + l.length) l.rest).fault⟩ := by
  rw [lexFrom]
  split
  next h => rw [h]
  next h =>
    simp only [h]
    split
    next hl => rw [hl]
    next hl => rw [hl]

theorem lexFrom_nil : lexFrom offset [] = ⟨[], none⟩ := by
  rw [lexFrom_eq]
  rfl

theorem lexFrom_blank (hc : isBlank c = true) :
    lexFrom offset (c :: rest) = lexFrom (offset + 1) rest := by
  have hstart : offset + ((c :: rest).takeWhile isBlank).length =
      offset + 1 + (rest.takeWhile isBlank).length := by
    simp only [List.takeWhile_cons, hc, if_true, List.length_cons]
    omega
  rw [lexFrom_eq, lexFrom_eq (offset + 1), hstart, List.dropWhile_cons, if_pos hc]

theorem lexFrom_cons (hc : isBlank c = false) :
    lexFrom offset (c :: rest) =
      match scan offset c rest with
      | .error e => ⟨[], some e⟩
      | .ok l =>
        ⟨⟨l.token, offset, offset + l.length⟩ :: (lexFrom (offset + l.length) l.rest).placed,
          (lexFrom (offset + l.length) l.rest).fault⟩ := by
  rw [lexFrom_eq]
  simp only [List.takeWhile_cons, List.dropWhile_cons, hc, Bool.false_eq_true, if_false,
    List.length_nil, Nat.add_zero]

theorem Lexes.lexFrom {ts : List Token} (h : Lexes cs ts) (offset : Nat) :
    (lexFrom offset cs).tokens = ts ∧ (lexFrom offset cs).fault = none := by
  induction h generalizing offset with
  | nil => rw [lexFrom_nil]; exact ⟨rfl, rfl⟩
  | blank hc _ ih => rw [lexFrom_blank hc]; exact ih (offset + 1)
  | @token c rest l ts hc hl _ ih =>
    rw [lexFrom_cons hc, scan_offset hl offset]
    obtain ⟨h1, h2⟩ := ih (offset + l.length)
    exact ⟨congrArg (l.token :: ·) h1, h2⟩

theorem lexes_of_lexFrom (cs : List Char) (offset : Nat) (h : (lexFrom offset cs).fault = none) :
    Lexes cs (lexFrom offset cs).tokens := by
  induction hn : cs.length using Nat.strongRecOn generalizing cs offset with
  | ind n ih =>
    subst hn
    cases cs with
    | nil => rw [lexFrom_nil]; exact .nil
    | cons c rest =>
      cases hc : isBlank c with
      | true =>
        rw [lexFrom_blank hc] at h ⊢
        exact .blank hc (ih rest.length (by simp) rest (offset + 1) h rfl)
      | false =>
        rw [lexFrom_cons hc] at h ⊢
        cases hl : scan offset c rest with
        | error e => rw [hl] at h; cases h
        | ok l =>
          rw [hl] at h
          exact .token hc (scan_offset hl 0)
            (ih l.rest.length (scan_length hl) l.rest (offset + l.length) h rfl)

theorem tokenize_eq_ok_iff {ts : List Token} : tokenize cs = .ok ts ↔ Lexes cs ts := by
  constructor
  · intro h
    simp only [tokenize, lex] at h
    cases hf : (lexFrom 0 cs).fault with
    | some e => rw [hf] at h; cases h
    | none =>
      rw [hf] at h
      cases h
      exact lexes_of_lexFrom cs 0 hf
  · intro h
    obtain ⟨h1, h2⟩ := h.lexFrom 0
    simp only [tokenize, lex, h2, h1]

/-! ## Blanks at the ends of a text -/

theorem lexes_blanks {bs : List Char} (hbs : ∀ b ∈ bs, isBlank b = true) {ts : List Token}
    (h : Lexes bs ts) : ts = [] := by
  induction h with
  | nil => rfl
  | blank _ _ ih => exact ih fun b hb => hbs b (List.mem_cons_of_mem _ hb)
  | @token c rest _ _ hc _ _ =>
    rw [hbs c List.mem_cons_self] at hc
    cases hc

theorem Lexes.of_append_blanks (bs : List Char) {ts : List Token}
    (hbs : ∀ b ∈ bs, isBlank b = true) (h : Lexes (cs ++ bs) ts) : Lexes cs ts := by
  generalize htext : cs ++ bs = text at h
  induction h generalizing cs with
  | nil =>
    obtain ⟨rfl, -⟩ := List.append_eq_nil_iff.mp htext
    exact .nil
  | @blank c rest ts hc h ih =>
    cases cs with
    | nil =>
      subst htext
      rw [lexes_blanks hbs (.blank hc h)]
      exact .nil
    | cons d cs =>
      cases htext
      exact .blank hc (ih rfl)
  | @token c rest l ts hc hl h ih =>
    cases cs with
    | nil =>
      subst htext
      rw [hbs c List.mem_cons_self] at hc
      cases hc
    | cons d cs =>
      cases htext
      obtain ⟨taken, hrest, hlast, hcut⟩ := scan_cut hl
      -- the token's last character is no blank, so the token ends before the blanks do
      obtain ⟨r, rfl, hr⟩ : ∃ r, cs = taken ++ r ∧ l.rest = r ++ bs := by
        rcases List.append_eq_append_iff.mp hrest with ⟨t, rfl, rfl⟩ | ⟨r, hcs, hr⟩
        · rcases List.eq_nil_or_concat t with rfl | ⟨t, d, rfl⟩
          · exact ⟨[], by simp, by simp⟩
          · have hd := hlast hc d (by simp [List.getLast?_cons])
            rw [hbs d (by simp)] at hd
            cases hd
        · exact ⟨r, hcs, hr⟩
      exact .token (l := ⟨l.token, l.length, r⟩) hc (hcut 0 r ⟨bs, hr.symm⟩) (ih hr.symm)

theorem Lexes.trim {ts : List Token} (h : Lexes cs ts) : Lexes (Text.trim cs) ts := by
  have hstart : Lexes (Text.trimStart cs) ts := by
    induction h with
    | nil => exact .nil
    | blank hc _ ih => simpa [Text.trimStart, hc] using ih
    | token hc hl h => simpa [Text.trimStart, hc] using .token hc hl h
  let blanks := ((Text.trimStart cs).reverse.takeWhile isBlank).reverse
  refine Lexes.of_append_blanks blanks ?_ ?_
  · intro b hb
    exact List.all_eq_true.mp List.all_takeWhile b (List.mem_reverse.mp hb)
  · have : Text.trim cs ++ blanks = Text.trimStart cs := by
      simp only [Text.trim, Text.trimStart, blanks, ← List.reverse_append,
        List.takeWhile_append_dropWhile, List.reverse_reverse]
    rwa [this]

end RowQuery.Lambda
