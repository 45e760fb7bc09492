import RowQuery.Proofs.Failure
import RowQuery.Proofs.Lambda.Lexing

/-!
# Where the tokens of a text stand

`nextToken source position` is one step of reading: it passes over blanks and takes one token. A step moves
forward inside the text, and what it takes is this one token by itself as well (`tokenize_span`). The tokens
of a text are those of a run of such steps, which ends; their places do not overlap, and all that is outside
of them is blank (`lex_covers`).
-/

namespace RowQuery.Lambda

open Text (isBlank)

variable {source : List Char} {position offset start : Nat} {c quote : Char} {cs rest : List Char}
  {l : Lexeme} {p : Placed} {ts : List Token}

/-! ## Lengths of tokens -/

theorem stringBody_extent {s behind : List Char} {stop : Nat}
    (h : stringBody quote start offset cs = .ok (s, stop, behind)) :
    offset < stop ∧ stop + behind.length = offset + cs.length := by
  fun_induction stringBody quote start offset cs generalizing s stop behind with
  | case1 => cases h
  | case2 offset => cases h; simp
  | case3 => cases h
  | case4 offset d rest' => cases h; simp [Nat.add_comm, Nat.add_left_comm]
  | case5 offset d rest' e he hq ih =>
    obtain ⟨⟨s', stop', behind'⟩, hb, h⟩ := bind_eq_ok.mp h
    cases h
    obtain ⟨hlt, hlength⟩ := ih hb
    simp only [List.length_cons]
    omega
  | case6 => cases h
  | case7 offset c d rest' hq hslash ih =>
    obtain ⟨⟨s', stop', behind'⟩, hb, h⟩ := bind_eq_ok.mp h
    cases h
    obtain ⟨hlt, hlength⟩ := ih hb
    simp only [List.length_cons] at hlength ⊢
    omega

theorem scanSymbol_extent (h : scanSymbol? cs = some (.ok l)) : l.length + l.rest.length = cs.length := by
  obtain ⟨s, hs, hl⟩ := Option.map_eq_some_iff.mp h
  have hfront : s.1.isPrefixOf cs = true := by simpa using List.find?_some hs
  have hle := (List.isPrefixOf_iff_prefix.mp hfront).length_le
  obtain ⟨text, sign⟩ := s
  cases sign with
  | error e => cases hl
  | ok token =>
    cases hl
    simp only [List.length_drop]
    exact Nat.add_sub_cancel' hle

theorem scanNumber_extent (h : scanNumber offset cs = .ok l) : l.length + l.rest.length = cs.length := by
  rcases hf : fraction (cs.dropWhile Number.isDigit) with ⟨point, behind⟩
  obtain ⟨hsplit, -, -⟩ := fraction_cut hf
  simp only [scanNumber, hf] at h
  split at h
  next =>
    cases h
    rw [← List.length_append, List.append_assoc, ← hsplit, List.takeWhile_append_dropWhile]
  next => cases h

/-- A token and the text behind it are the whole text. -/
theorem scan_extent (h : scan offset c rest = .ok l) : l.length + l.rest.length = rest.length + 1 := by
  unfold scan at h
  split at h
  next hsym =>
    cases h
    exact scanSymbol_extent hsym
  next => cases h
  split at h
  next =>
    obtain ⟨⟨s, stop, behind⟩, hb, h⟩ := bind_eq_ok.mp h
    cases h
    obtain ⟨hlt, hlength⟩ := stringBody_extent hb
    dsimp only
    omega
  split at h
  next =>
    cases h
    rw [scanWord, ← List.length_append, List.takeWhile_append_dropWhile, List.length_cons]
  split at h
  next => exact scanNumber_extent h
  next => cases h

/-! ## One step -/

/-- Position of the first character from `position` on that is no blank. -/
def skipBlanks (source : List Char) (position : Nat) : Nat :=
  position + ((source.drop position).takeWhile isBlank).length

/-- What stands behind a position: a token with its place, nothing but blanks, or an error. -/
def nextToken (source : List Char) (position : Nat) : Except LexError (Option Placed) :=
  let start := skipBlanks source position
  match source.drop start with
  | [] => .ok none
  | c :: rest => (scan start c rest).map fun l => some ⟨l.token, start, start + l.length⟩

theorem drop_skipBlanks (source : List Char) (position : Nat) :
    source.drop (skipBlanks source position) = (source.drop position).dropWhile isBlank := by
  have hdrop : ((source.drop position).takeWhile isBlank ++ (source.drop position).dropWhile isBlank).drop
      ((source.drop position).takeWhile isBlank).length = (source.drop position).dropWhile isBlank :=
    List.drop_left
  rwa [List.takeWhile_append_dropWhile, List.drop_drop] at hdrop

/-- Behind the blanks stands no blank. -/
theorem isBlank_skipBlanks (h : source.drop (skipBlanks source position) = c :: rest) :
    isBlank c = false := by
  rw [drop_skipBlanks] at h
  have := List.head?_dropWhile_not isBlank (source.drop position)
  rwa [h] at this

/-- What is passed over is blank. -/
theorem isBlank_of_lt_skipBlanks {i : Nat} (hi : i < source.length) (hle : position ≤ i)
    (hlt : i < skipBlanks source position) : isBlank source[i] = true := by
  have hbefore : i - position < ((source.drop position).takeWhile isBlank).length := by
    rw [skipBlanks] at hlt
    omega
  have hblank := List.all_eq_true.mp List.all_takeWhile _ (List.getElem_mem hbefore)
  have hsame : ((source.drop position).takeWhile isBlank)[i - position] = source[i] := by
    rw [(List.takeWhile_prefix isBlank).getElem hbefore, List.getElem_drop]
    congr 1
    omega
  rwa [hsame] at hblank

/-- The text behind a token. -/
theorem drop_of_scan (hdrop : source.drop start = c :: rest) (h : scan offset c rest = .ok l) :
    source.drop (start + l.length) = l.rest := by
  obtain ⟨taken, rfl, -, -⟩ := scan_cut h
  have hextent := scan_extent h
  have hlength : l.length = (c :: taken).length := by
    rw [List.length_append] at hextent
    rw [List.length_cons]
    omega
  rw [← List.drop_drop, hdrop, hlength, ← List.cons_append, List.drop_left]

/-- A step that takes a token passes over blanks and takes the characters of the token, whose scanning does
not depend on what is cut off behind it. -/
theorem nextToken_spec (h : nextToken source position = .ok (some p)) :
    p.start = skipBlanks source position ∧ ∃ c taken, source.drop p.start = c :: (taken ++ source.drop p.stop) ∧
      isBlank c = false ∧ p.stop = p.start + (c :: taken).length ∧
        ∀ offset r, r <+: source.drop p.stop →
          scan offset c (taken ++ r) = .ok ⟨p.token, (c :: taken).length, r⟩ := by
  rw [nextToken] at h
  split at h
  next => cases h
  next c rest hdrop =>
    obtain ⟨l, hl, heq⟩ := map_eq_ok.mp h
    have hbehind := drop_of_scan hdrop hl
    have hextent := scan_extent hl
    obtain ⟨taken, rfl, -, hcut⟩ := scan_cut hl
    have hlength : l.length = (c :: taken).length := by
      rw [List.length_append] at hextent
      rw [List.length_cons]
      omega
    cases heq
    rw [hbehind]
    refine ⟨rfl, c, taken, hdrop, isBlank_skipBlanks hdrop, congrArg _ hlength, ?_⟩
    rwa [← hlength]

/-- At the end of the text nothing but blanks is left. -/
theorem length_le_skipBlanks (h : nextToken source position = .ok none) :
    source.length ≤ skipBlanks source position := by
  rw [nextToken] at h
  split at h
  next hdrop => exact List.drop_eq_nil_iff.mp hdrop
  next =>
    obtain ⟨l, -, heq⟩ := map_eq_ok.mp h
    cases heq

/-- A step that fails does so on the first character that is no blank. -/
theorem nextToken_eq_error {e : LexError} (h : nextToken source position = .error e) :
    ∃ c rest, source.drop (skipBlanks source position) = c :: rest ∧
      scan (skipBlanks source position) c rest = .error e := by
  rw [nextToken] at h
  split at h
  next => cases h
  next c rest hdrop =>
    refine ⟨c, rest, hdrop, ?_⟩
    cases hl : scan (skipBlanks source position) c rest with
    | error e' => rw [hl] at h; cases h; rfl
    | ok l => rw [hl] at h; cases h

/-- A step that takes a token moves forward, inside the text. -/
theorem nextToken_bounds (h : nextToken source position = .ok (some p)) :
    position ≤ p.start ∧ p.start < p.stop ∧ p.stop ≤ source.length := by
  obtain ⟨hstart, c, taken, hdrop, -, hstop, -⟩ := nextToken_spec h
  have hlength := congrArg List.length hdrop
  simp only [List.length_drop, List.length_cons, List.length_append] at hlength hstop
  refine ⟨?_, by omega, by omega⟩
  rw [hstart]
  exact Nat.le_add_right _ _

/-- A token is read off every text that begins with it, if the text behind it is cut at all. -/
theorem lexes_extract (h : nextToken source position = .ok (some p)) {stop : Nat} (hstop : p.stop ≤ stop)
    (hrest : Lexes (source.extract p.stop stop) ts) : Lexes (source.extract p.start stop) (p.token :: ts) := by
  obtain ⟨-, c, taken, hdrop, hc, hend, hscan⟩ := nextToken_spec h
  have htext : source.extract p.start stop = c :: (taken ++ source.extract p.stop stop) := by
    have hsize : stop - p.start = (c :: taken).length + (stop - p.stop) := by omega
    rw [List.extract_eq_take_drop, List.extract_eq_take_drop, hdrop, hsize, ← List.cons_append,
      List.take_length_add_append, List.cons_append]
  rw [htext]
  exact .token hc (hscan 0 _ (List.take_prefix _ _)) hrest

/-- **What a step takes is this one token** by itself as well. -/
theorem tokenize_span (h : nextToken source position = .ok (some p)) :
    tokenize (source.extract p.start p.stop) = .ok [p.token] := by
  refine tokenize_eq_ok_iff.mpr (lexes_extract h (Nat.le_refl _) ?_)
  rw [List.extract_eq_take_drop, Nat.sub_self, List.take_zero]
  exact .nil

/-! ## Runs of steps -/

/-- A run of steps from a position on, up to the end of the text or an error: each step starts where the
one in front of it stopped. -/
inductive TokenRun (source : List Char) : Nat → Lexed → Prop where
  | finish {position : Nat} (h : nextToken source position = .ok none) : TokenRun source position ⟨[], none⟩
  | fault {position : Nat} {e : LexError} (h : nextToken source position = .error e) :
      TokenRun source position ⟨[], some e⟩
  | token {position : Nat} {p : Placed} {lexed : Lexed} (h : nextToken source position = .ok (some p))
      (hrest : TokenRun source p.stop lexed) : TokenRun source position ⟨p :: lexed.placed, lexed.fault⟩

/-- Reading a text from a position on is one step, and reading from where that stops. -/
theorem lexFrom_drop (source : List Char) (position : Nat) :
    lexFrom position (source.drop position) =
      match nextToken source position with
      | .error e => ⟨[], some e⟩
      | .ok none => ⟨[], none⟩
      | .ok (some p) =>
        let behind := lexFrom p.stop (source.drop p.stop)
        ⟨p :: behind.placed, behind.fault⟩ := by
  have hstart : position + ((source.drop position).takeWhile isBlank).length = skipBlanks source position := rfl
  rw [lexFrom_eq, hstart, ← drop_skipBlanks, nextToken]
  cases hdrop : source.drop (skipBlanks source position) with
  | nil => rfl
  | cons c rest =>
    cases hl : scan (skipBlanks source position) c rest with
    | error e => simp only [hl, Except.map]
    | ok l => simp only [hl, Except.map, drop_of_scan hdrop hl]

/-- **Reading ends**: steps from any position on come to the end of the text or to an error. -/
theorem tokenRun_lexFrom (source : List Char) (position : Nat) :
    TokenRun source position (lexFrom position (source.drop position)) := by
  -- every token brings the position closer to the end of the text
  induction hn : source.length - position using Nat.strongRecOn generalizing position with
  | ind n ih =>
    subst hn
    rw [lexFrom_drop]
    cases hnext : nextToken source position with
    | error e => exact .fault hnext
    | ok found =>
      cases found with
      | none => exact .finish hnext
      | some p =>
        obtain ⟨hle, hlt, hstop⟩ := nextToken_bounds hnext
        exact .token hnext (ih _ (by omega) p.stop rfl)

theorem tokenRun_iff {lexed : Lexed} :
    TokenRun source position lexed ↔ lexed = lexFrom position (source.drop position) := by
  constructor
  · intro h
    induction h with
    | finish h => rw [lexFrom_drop, h]
    | fault h => rw [lexFrom_drop, h]
    | token h _ ih =>
      rw [lexFrom_drop, h]
      simp only [← ih]
  · rintro rfl
    exact tokenRun_lexFrom source position

/-- A token takes the character at an index. -/
def Placed.Takes (p : Placed) (i : Nat) : Prop :=
  p.start ≤ i ∧ i < p.stop

/-- Tokens cover a text from a position on: each takes a part of the text that is this one token by itself,
no two of them overlap, and what none of them takes is blank, up to the end if there is no error and else up
to the last of them. -/
structure Lexed.Covers (lexed : Lexed) (source : List Char) (position : Nat) : Prop where
  spans : ∀ p ∈ lexed.placed, position ≤ p.start ∧ p.start < p.stop ∧ p.stop ≤ source.length ∧
    tokenize (source.extract p.start p.stop) = .ok [p.token]
  ordered : lexed.placed.Pairwise fun p q => p.stop ≤ q.start
  blanks : ∀ i, (hi : i < source.length) → position ≤ i → (∀ p ∈ lexed.placed, ¬ p.Takes i) →
    (lexed.fault = none ∨ ∃ p ∈ lexed.placed, i < p.start) → isBlank source[i] = true

theorem TokenRun.covers {lexed : Lexed} (h : TokenRun source position lexed) : lexed.Covers source position := by
  induction h with
  | @finish position h =>
    refine ⟨by simp, .nil, fun i hi hle _ _ => isBlank_of_lt_skipBlanks hi hle ?_⟩
    exact Nat.lt_of_lt_of_le hi (length_le_skipBlanks h)
  | fault h => exact ⟨by simp, .nil, by simp⟩
  | @token position p lexed h _ ih =>
    obtain ⟨hle, hlt, hstop⟩ := nextToken_bounds h
    refine ⟨?_, ?_, ?_⟩
    · refine List.forall_mem_cons.mpr ⟨⟨hle, hlt, hstop, tokenize_span h⟩, fun q hq => ?_⟩
      obtain ⟨hqle, hq⟩ := ih.spans q hq
      exact ⟨by omega, hq⟩
    · exact List.pairwise_cons.mpr ⟨fun q hq => (ih.spans q hq).1, ih.ordered⟩
    · intro i hi hposition hfree hend
      obtain ⟨hfirst, hothers⟩ := List.forall_mem_cons.mp hfree
      by_cases hbefore : i < p.start
      · rw [(nextToken_spec h).1] at hbefore
        exact isBlank_of_lt_skipBlanks hi hposition hbefore
      · have hbehind : p.stop ≤ i := by
          by_contra hlt
          exact hfirst ⟨by omega, by omega⟩
        refine ih.blanks i hi hbehind hothers (hend.imp_right ?_)
        rintro ⟨q, hq, hlater⟩
        rcases List.mem_cons.mp hq with rfl | hq
        · exact absurd hlater hbefore
        · exact ⟨q, hq, hlater⟩

theorem TokenRun.length_le {lexed : Lexed} (h : TokenRun source position lexed)
    (hle : position ≤ source.length) : position + lexed.placed.length ≤ source.length := by
  induction h with
  | finish | fault => simpa using hle
  | token h _ ih =>
    obtain ⟨hle, hlt, hstop⟩ := nextToken_bounds h
    have := ih hstop
    simp only [List.length_cons]
    omega

/-- **The tokens of a text cover it**: reading it step by step ends, after at most as many tokens as there are
characters. -/
theorem lex_covers (source : List Char) :
    (∀ lexed, TokenRun source 0 lexed ↔ lexed = lex source) ∧ (lex source).placed.length ≤ source.length ∧
      (lex source).Covers source 0 := by
  have hrun := tokenRun_lexFrom source 0
  refine ⟨fun lexed => tokenRun_iff, ?_, hrun.covers⟩
  have hlength := hrun.length_le (Nat.zero_le _)
  rwa [Nat.zero_add] at hlength

end RowQuery.Lambda
