import RowQuery.Lambda.Function
import RowQuery.Proofs.Failure
import RowQuery.Proofs.Lambda.Lexing
import RowQuery.Proofs.Lambda.Reading

/-!
# The text of a lambda and the text of its body

A lambda that parses has no lexical error in it, and its tokens are a parameter list, the first arrow and
a body. The text of the body is found without the tokens, by a search for `=>`. Nothing in front of the arrow
contains an equals sign, so that the search ends at the arrow and the two `Halves` of the text consist of
exactly the tokens in front of the arrow and behind it (`tokenize_bodySource`).
-/

namespace RowQuery.Lambda

open Text (isBlank isWordChar isWordStart)

variable {params : List String} {fault : Option LexError} {c : Char} {cs rest : List Char}
  {ts tail : List Token} {r : Expr} {l : Lexeme}

/-! ## The first arrow in a text -/

/-- Whether a token may stand in a parameter list. -/
def Token.inHead : Token → Bool
  | .ident _ | .lparen | .rparen | .comma => true
  | _ => false

/-- What the written operators say about the equals sign. -/
theorem symbols_equals : ∀ s ∈ symbols,
    (match s.2 with
      | .ok .arrow => s.1 = ['=', '>']
      | .ok t => t.inHead = true → '=' ∉ s.1
      | .error _ => True) := by
  simp [symbols, Token.inHead]

theorem wordToken_ne_arrow (word : String) : wordToken word ≠ .arrow := by
  unfold wordToken
  repeat' split
  all_goals rintro ⟨⟩

/-- Which scanner read a token that is an arrow or belongs to a parameter list. -/
theorem scan_symbol_or_word (h : scan 0 c rest = .ok l)
    (ht : l.token = .arrow ∨ l.token.inHead = true) :
    scanSymbol? (c :: rest) = some (.ok l) ∨ (isWordStart c = true ∧ l = scanWord (c :: rest)) := by
  unfold scan at h
  split at h
  next hsym => cases h; exact .inl hsym
  next => cases h
  next =>
    split at h
    next =>
      unfold scanString at h
      cases hb : stringBody c 0 (0 + 1) rest with
      | error e => rw [hb] at h; cases h
      | ok found =>
        rw [hb] at h
        cases h
        rcases ht with ht | ht <;> cases ht
    next =>
      split at h
      next hw => cases h; exact .inr ⟨hw, rfl⟩
      next =>
        split at h
        next =>
          simp only [scanNumber] at h
          split at h
          next token htoken =>
            cases h
            split at htoken
            next =>
              obtain ⟨n, -, rfl⟩ := Option.map_eq_some_iff.mp htoken
              rcases ht with ht | ht <;> cases ht
            next =>
              obtain ⟨x, -, rfl⟩ := Option.map_eq_some_iff.mp htoken
              rcases ht with ht | ht <;> cases ht
          next => cases h
        next => cases h

theorem scan_arrow (h : scan 0 c rest = .ok l) (ht : l.token = .arrow) :
    c = '=' ∧ rest = '>' :: l.rest := by
  rcases scan_symbol_or_word h (.inl ht) with hsym | ⟨-, rfl⟩
  · obtain ⟨s, hs, hl⟩ := Option.map_eq_some_iff.1 hsym
    have hmem := symbols_equals s (List.mem_of_find?_eq_some hs)
    have hfront : s.1.isPrefixOf (c :: rest) = true := by simpa using List.find?_some hs
    obtain ⟨text, sign⟩ := s
    cases sign with
    | error e => cases hl
    | ok token =>
      cases hl
      obtain rfl : token = .arrow := ht
      obtain rfl : text = ['=', '>'] := hmem
      obtain ⟨tail, htail⟩ := List.isPrefixOf_iff_prefix.1 hfront
      cases htail
      exact ⟨rfl, rfl⟩
  · exact absurd ht (wordToken_ne_arrow _)

theorem equals_not_word : isWordChar '=' = false := by decide

theorem scan_head (h : scan 0 c rest = .ok l) (ht : l.token.inHead = true) :
    ∃ taken, rest = taken ++ l.rest ∧ '=' ∉ c :: taken := by
  have hfilled : ∀ s ∈ symbols, s.1 ≠ [] := by decide
  rcases scan_symbol_or_word h (.inr ht) with hsym | ⟨hw, rfl⟩
  · obtain ⟨s, hs, hl⟩ := Option.map_eq_some_iff.1 hsym
    have hmem := symbols_equals s (List.mem_of_find?_eq_some hs)
    have hfront : s.1.isPrefixOf (c :: rest) = true := by simpa using List.find?_some hs
    obtain ⟨tail, htail⟩ := List.isPrefixOf_iff_prefix.1 hfront
    obtain ⟨text, sign⟩ := s
    cases sign with
    | error e => cases hl
    | ok token =>
      cases hl
      have hne : '=' ∉ text := by
        cases token with
        | arrow => cases ht
        | _ => exact hmem ht
      cases text with
      | nil => exact absurd rfl (hfilled _ (List.mem_of_find?_eq_some hs))
      | cons d text =>
        cases htail
        exact ⟨text, by simp, hne⟩
  · obtain ⟨taken, hrest, hall, -⟩ := scanWord_cut hw rest
    refine ⟨taken, hrest, fun hmem => ?_⟩
    have := hall '=' hmem
    rw [equals_not_word] at this
    cases this

theorem after_skip {taken : List Char} (h : '=' ∉ taken) (behind : List Char) :
    Text.after? ['=', '>'] (taken ++ behind) = Text.after? ['=', '>'] behind := by
  induction taken with
  | nil => rfl
  | cons d taken ih =>
    have hd : d ≠ '=' := by rintro rfl; exact h List.mem_cons_self
    rw [List.cons_append, Text.after?, if_neg, ih fun hmem => h (List.mem_cons_of_mem _ hmem)]
    simp [List.isPrefixOf, hd.symm]

/-- A text whose tokens have an arrow among them falls into the texts of the tokens on its two sides. -/
theorem Lexes.split_arrow {head : List Token} (hhead : ∀ t ∈ head, t.inHead = true)
    (h : Lexes cs (head ++ .arrow :: tail)) :
    ∃ front behind, cs = front ++ '=' :: '>' :: behind ∧ '=' ∉ front ∧ Lexes front head ∧
      Lexes behind tail := by
  generalize hts : head ++ .arrow :: tail = ts at h
  induction h generalizing head with
  | nil => simp at hts
  | @blank c rest ts hc h ih =>
    obtain ⟨front, behind, rfl, hfirst, hfront, hbehind⟩ := ih hhead hts
    have hne : '=' ≠ c := by rintro rfl; cases hc
    exact ⟨c :: front, behind, rfl, List.not_mem_cons_of_ne_of_not_mem hne hfirst, .blank hc hfront, hbehind⟩
  | @token c rest l ts hc hl h ih =>
    cases head with
    | nil =>
      obtain ⟨harrow, rfl⟩ := List.cons.inj hts
      obtain ⟨rfl, rfl⟩ := scan_arrow hl harrow.symm
      exact ⟨[], l.rest, rfl, List.not_mem_nil, .nil, h⟩
    | cons t head =>
      obtain ⟨rfl, htail⟩ := List.cons.inj hts
      obtain ⟨front, behind, hrest, hfirst, hfront, hbehind⟩ :=
        ih (fun t ht => hhead t (List.mem_cons_of_mem _ ht)) htail
      obtain ⟨taken, rfl, hne⟩ := scan_head hl (hhead _ List.mem_cons_self)
      obtain ⟨taken', htaken, -, hcut⟩ := scan_cut hl
      obtain rfl := List.append_cancel_right htaken
      -- the token does not change when its text ends in front of the arrow
      have hscan := hcut 0 front ⟨_, hrest.symm⟩
      refine ⟨c :: (taken ++ front), behind, by simp [hrest], ?_,
        .token (l := ⟨l.token, l.length, front⟩) hc hscan hfront, hbehind⟩
      rw [← List.cons_append, List.mem_append]
      exact not_or.mpr ⟨hne, hfirst⟩

/-! ## Parameters, arrow, body -/

theorem paramList_eq_ok {seen : List String} {behind : List Token}
    (h : paramList fault seen ts = .ok (params, behind)) :
    ∃ head, ts = head ++ behind ∧ ∀ t ∈ head, t.inHead = true := by
  fun_induction paramList fault seen ts with
  | case1 seen name rest ih =>
    obtain ⟨-, -, h⟩ := bind_eq_ok.mp h
    split at h
    next => cases h
    next =>
      split at h
      next rest =>
        obtain ⟨-, -, h⟩ := bind_eq_ok.mp h
        obtain ⟨head, rfl, hhead⟩ := ih h
        exact ⟨.ident name :: .comma :: head, rfl, by simpa [Token.inHead] using hhead⟩
      next rest =>
        obtain ⟨-, -, h⟩ := bind_eq_ok.mp h
        cases h
        exact ⟨[.ident name, .rparen], rfl, by simp [Token.inHead]⟩
      next => cases h
  | case2 => cases h

theorem parseParams_eq_ok {behind : List Token} (h : parseParams fault ts = .ok (params, behind)) :
    ∃ head, ts = head ++ behind ∧ ∀ t ∈ head, t.inHead = true := by
  unfold parseParams at h
  split at h
  next rest =>
    obtain ⟨-, -, h⟩ := bind_eq_ok.mp h
    obtain ⟨head, rfl, hhead⟩ := paramList_eq_ok h
    exact ⟨.lparen :: head, rfl, by simpa [Token.inHead] using hhead⟩
  next name rest =>
    obtain ⟨-, -, h⟩ := bind_eq_ok.mp h
    cases h
    exact ⟨[.ident name], rfl, by simp [Token.inHead]⟩
  next => cases h

/-- A text with a lexical error in it does not end. -/
theorem parseEnd_eq_ok (h : parseEnd fault ts = .ok ()) :
    (∀ t ∈ ts, t = .semicolon) ∧ (ts ≠ [] → fault = none) := by
  fun_induction parseEnd fault ts with
  | case1 => simp
  | case2 rest ih =>
    obtain ⟨_, hadvance, h⟩ := bind_eq_ok.mp h
    obtain ⟨hall, hfault⟩ := ih h
    refine ⟨by simpa using hall, fun _ => ?_⟩
    cases rest with
    | nil =>
      cases fault with
      | none => rfl
      | some e => cases hadvance
    | cons t rest => exact hfault (by simp)
  | case3 => cases h

theorem readFrom_fault {stack : Stack} {mode : Mode} {behind : List Token} {e : LexError}
    (h : readFrom params (some e) stack mode ts = .ok (r, behind)) : behind ≠ [] := by
  induction ts generalizing stack mode with
  | nil => cases h
  | cons t ts ih =>
    rw [readFrom] at h
    split at h
    next => cases h
    next => exact ih h
    next => cases h; simp

/-- A body that parses is an expression, perhaps with a `return` in front and semicolons behind. -/
theorem parseBody_eq_ok (h : parseBody params fault ts = .ok r) :
    fault = none ∧ ∃ inner behind,
      (ts = .returnWord :: inner ∨ ts = inner ∧ inner.head? ≠ some .returnWord) ∧
        readFrom params none [] .operand inner = .ok (r, behind) ∧ ∀ t ∈ behind, t = .semicolon := by
  obtain ⟨inner, hinner, h⟩ : ∃ inner,
      (ts = .returnWord :: inner ∨ ts = inner ∧ inner.head? ≠ some .returnWord) ∧
        (do
          let read ← parseExpr params fault inner
          parseEnd fault read.2
          return read.1) = Except.ok r := by
    unfold parseBody at h
    dsimp only at h
    split at h
    next rest =>
      obtain ⟨-, -, h⟩ := bind_eq_ok.mp h
      exact ⟨rest, .inl rfl, h⟩
    next hreturn =>
      refine ⟨ts, .inr ⟨rfl, fun hhead => ?_⟩, h⟩
      obtain ⟨rest, hrest⟩ := List.head?_eq_some_iff.mp hhead
      exact hreturn rest hrest
  obtain ⟨⟨r', behind⟩, hread, h⟩ := bind_eq_ok.mp h
  obtain ⟨_, hend, h⟩ := bind_eq_ok.mp h
  cases h
  obtain ⟨hall, hfault⟩ := parseEnd_eq_ok hend
  have hnone : fault = none := by
    cases fault with
    | none => rfl
    | some e => exact hfault (readFrom_fault hread)
  subst hnone
  exact ⟨rfl, inner, behind, hinner, hread, hall⟩

/-- A text whose tokens are those of a lambda parses. -/
theorem parse_of_lexes {source : String} (ts : List Token) {body : Expr} (hlexes : Lexes source.toList ts)
    (hparse : parseTokens none ts = .ok (params, body)) :
    ∃ f, parse source = .ok f ∧ f.params = params ∧ f.body = body := by
  obtain ⟨htokens, hfault⟩ := hlexes.lexFrom 0
  refine ⟨⟨params, body, source, textBehindArrow source⟩, ?_, rfl, rfl⟩
  simp only [parse, lex, htokens, hfault, hparse]
  rfl

/-- A lambda that parses has no lexical error in its text, and its parameters, an arrow and its body take
all tokens. -/
theorem parse_eq_ok {source : String} {f : Lambda} (h : parse source = .ok f) :
    f.bodySource = textBehindArrow source ∧ (lex source.toList).fault = none ∧ ∃ rest,
      parseParams none (lex source.toList).tokens = .ok (f.params, .arrow :: rest) ∧
        parseBody f.params none rest = .ok f.body := by
  obtain ⟨⟨params, body⟩, htokens, h⟩ := bind_eq_ok.mp h
  cases h
  obtain ⟨-, -, htokens⟩ := bind_eq_ok.mp htokens
  obtain ⟨⟨params', behind⟩, hparams, htokens⟩ := bind_eq_ok.mp htokens
  dsimp only at htokens
  split at htokens
  next rest =>
    obtain ⟨-, -, htokens⟩ := bind_eq_ok.mp htokens
    obtain ⟨body', hbody, htokens⟩ := bind_eq_ok.mp htokens
    cases htokens
    obtain ⟨hfault, -⟩ := parseBody_eq_ok hbody
    exact ⟨rfl, hfault, rest, hfault ▸ hparams, hfault ▸ hbody⟩
  next => cases htokens

/-- The text of a lambda in front of its arrow and behind it, and the tokens of the two halves. -/
structure Halves (source : String) (f : Lambda) (front behind : List Char) (head body : List Token) :
    Prop where
  text : source.toList = front ++ '=' :: '>' :: behind
  first : '=' ∉ front
  bodySource : f.bodySource = String.ofList (Text.trim behind)
  lexes : Lexes source.toList (head ++ Token.arrow :: body)
  lexes_front : Lexes front head
  lexes_behind : Lexes behind body
  inHead : ∀ t ∈ head, t.inHead = true
  params : parseParams none (head ++ Token.arrow :: body) = .ok (f.params, Token.arrow :: body)
  body : parseBody f.params none body = .ok f.body

theorem halves_of_parse {source : String} {f : Lambda} (h : parse source = .ok f) :
    ∃ front behind head body, Halves source f front behind head body := by
  obtain ⟨hsource, hfault, body, hparams, hbody⟩ := parse_eq_ok h
  obtain ⟨head, hhead, hall⟩ := parseParams_eq_ok hparams
  rw [hhead] at hparams
  have hlexes := lexes_of_lexFrom source.toList 0 hfault
  rw [show (lexFrom 0 source.toList).tokens = head ++ Token.arrow :: body from hhead] at hlexes
  obtain ⟨front, behind, htext, hfirst, hfront, hbehind⟩ := hlexes.split_arrow hall
  have hafter : Text.after? ['=', '>'] source.toList = some behind := by
    rw [htext, after_skip hfirst]
    rfl
  refine ⟨front, behind, head, body, htext, hfirst, ?_, hlexes, hfront, hbehind, hall, hparams, hbody⟩
  rw [hsource, textBehindArrow, hafter, Option.getD_some]

theorem Halves.lexes_bodySource {source : String} {f : Lambda} {front behind : List Char}
    {head body : List Token} (h : Halves source f front behind head body) :
    Lexes f.bodySource.toList body := by
  rw [h.bodySource, String.toList_ofList]
  exact h.lexes_behind.trim

/-- The body of a lambda is read from the tokens of its text. -/
theorem lexes_bodySource {source : String} {f : Lambda} (h : parse source = .ok f) :
    ∃ ts, Lexes f.bodySource.toList ts ∧ parseBody f.params none ts = .ok f.body := by
  obtain ⟨front, behind, head, body, hhalves⟩ := halves_of_parse h
  exact ⟨body, hhalves.lexes_bodySource, hhalves.body⟩

/-- **The text and the tree of a body have the same tokens.** In the text of a lambda that parses, the
first `=>` is the arrow behind the parameters. The text in front of it has the tokens in front of the first
arrow; the text of the body has the tokens behind that arrow, and the body was read from exactly these. -/
theorem tokenize_bodySource {source : String} {f : Lambda} (h : parse source = .ok f) :
    ∃ front behind head body,
      source.toList = front ++ '=' :: '>' :: behind ∧ '=' ∉ front ∧
      f.bodySource = String.ofList (Text.trim behind) ∧
      tokenize source.toList = .ok (head ++ Token.arrow :: body) ∧ Token.arrow ∉ head ∧
      tokenize front = .ok head ∧ tokenize f.bodySource.toList = .ok body ∧
      parseParams none (head ++ Token.arrow :: body) = .ok (f.params, Token.arrow :: body) ∧
      parseBody f.params none body = .ok f.body := by
  obtain ⟨front, behind, head, body, hhalves⟩ := halves_of_parse h
  have harrow : Token.arrow ∉ head := by
    intro hmem
    cases hhalves.inHead _ hmem
  exact ⟨front, behind, head, body, hhalves.text, hhalves.first, hhalves.bodySource,
    tokenize_eq_ok_iff.mpr hhalves.lexes, harrow, tokenize_eq_ok_iff.mpr hhalves.lexes_front,
    tokenize_eq_ok_iff.mpr hhalves.lexes_bodySource, hhalves.params, hhalves.body⟩

/-- Blanks around an arrow, a `return`, a semicolon, and a second `=>` inside a string. -/
theorem tokenize_bodySource_return :
    ∃ f, parse "(a, b)=> return a.x >= b && a.y != '=>' ; " = .ok f ∧
      ∃ head body,
        tokenize "(a, b)=> return a.x >= b && a.y != '=>' ; ".toList = .ok (head ++ Token.arrow :: body) ∧
          Token.arrow ∉ head ∧ tokenize f.bodySource.toList = .ok body ∧
          parseBody ["a", "b"] none body = .ok f.body := by
  obtain ⟨f, hf, hparams⟩ : ∃ f, parse "(a, b)=> return a.x >= b && a.y != '=>' ; " = .ok f ∧
      f.params = ["a", "b"] := by decide +kernel
  obtain ⟨-, -, head, body, -, -, -, htokens, harrow, -, hbody, -, hread⟩ := tokenize_bodySource hf
  rw [hparams] at hread
  exact ⟨f, hf, head, body, htokens, harrow, hbody, hread⟩

end RowQuery.Lambda
