import RowQuery.Proofs.Lambda.Body
import RowQuery.Proofs.PushDown.Agreement
import RowQuery.Proofs.PushDown.Emission

/-!
# From the text of a predicate to the filter

A predicate that parses and that nothing keeps local compiles, and its filter text parses to the image of
its body, unless a trailing comma stands in a call (`compile_of_eligible`). The filter then has the
meaning of the predicate (`filter_eval_eq_apply`).
-/

namespace RowQuery

/-- Whether a closing parenthesis stands directly behind a comma in the body. -/
def Lambda.hasTrailingComma (f : Lambda) : Bool :=
  match Lambda.tokenize f.bodySource.toList with
  | .ok ts => PushDown.hasTrailingComma ts
  | .error _ => false

namespace PushDown

open Lambda

variable {source : String} {f : Lambda} {ts read behind : List Lambda.Token}
  {ws : List Filter.Token} {r : Expr}

/-! ## Tokens of the body -/

theorem isEligible_iff (h : Lambda.tokenize f.bodySource.toList = .ok ts) :
    isEligible f = true ↔ f.params.length = 1 ∧ objectionFrom? f [] ts = none := by
  simp only [isEligible, rejection?, h, Option.isNone_iff_eq_none]
  split
  next hlen => simp [hlen]
  next hlen => simp [not_not.mp hlen]

/-- What is left of the tokens of a body without `return` and semicolons. -/
theorem bodyTokens_eq {inner : List Lambda.Token} (hread : ∀ t ∈ read, t ≠ .semicolon)
    (hbehind : ∀ t ∈ behind, t = .semicolon) (hinner : inner = read ++ behind)
    (hts : ts = .returnWord :: inner ∨ ts = inner ∧ inner.head? ≠ some .returnWord) :
    bodyTokens ts = read := by
  have hstrip : (inner.reverse.dropWhile (· = .semicolon)).reverse = read := by
    rw [hinner, List.reverse_append, List.dropWhile_append_of_pos (by simpa using hbehind)]
    have hkeep : read.reverse.dropWhile (· = .semicolon) = read.reverse := by
      cases hrev : read.reverse with
      | nil => rfl
      | cons t rest =>
        have ht : t ≠ .semicolon := hread t (List.mem_reverse.mp (hrev ▸ List.mem_cons_self))
        simp [ht]
    rw [hkeep, List.reverse_reverse]
  rcases hts with rfl | ⟨rfl, hhead⟩
  · exact hstrip
  · have hsame : bodyTokens ts = (ts.reverse.dropWhile (· = .semicolon)).reverse := by
      unfold bodyTokens
      split
      next => exact absurd rfl hhead
      next => rfl
    rw [hsame, hstrip]

/-- What a body that parses has around its expression ends no argument list. -/
theorem hasTrailingComma_body {inner : List Lambda.Token}
    (hbehind : ∀ t ∈ behind, t = .semicolon) (hinner : inner = read ++ behind)
    (hts : ts = .returnWord :: inner ∨ ts = inner ∧ inner.head? ≠ some .returnWord) :
    hasTrailingComma ts = hasTrailingComma read := by
  have hskip : hasTrailingComma ts = hasTrailingComma inner := by
    rcases hts with rfl | ⟨rfl, -⟩ <;> rfl
  rw [hskip, hinner]
  refine trailingCommaFrom_append (fun t ht => ?_) false
  rw [hbehind t ht]
  rintro ⟨⟩

/-- The tokens `ts` of a predicate's body are those of its expression, `read`, with perhaps a `return` in
front, so that `before` stands in front of them, and the semicolons `behind`. -/
structure BodyOf (f : Lambda) (ts before read behind : List Lambda.Token) : Prop where
  tokenize : Lambda.tokenize f.bodySource.toList = .ok ts
  lexical : ∀ t ∈ read, t.Lexical
  ready : Ready f before .operand
  objection : objectionFrom? f [] ts = objectionFrom? f before (read ++ behind)
  semicolons : ∀ t ∈ behind, t = .semicolon
  expression : bodyTokens ts = read
  trailingComma : hasTrailingComma ts = hasTrailingComma read
  reading : Reading f.params behind f.body [] .operand read

theorem exists_bodyOf (hparse : Lambda.parse source = .ok f) :
    ∃ ts before read behind, BodyOf f ts before read behind := by
  obtain ⟨ts, hlexes, hbody⟩ := lexes_bodySource hparse
  obtain ⟨-, inner, behind, hts, hread, hbehind⟩ := parseBody_eq_ok hbody
  obtain ⟨before, hready, hobjection⟩ : ∃ before : List Lambda.Token,
      Ready f before .operand ∧ objectionFrom? f [] ts = objectionFrom? f before inner := by
    rcases hts with rfl | ⟨rfl, -⟩
    · exact ⟨[.returnWord], by simp [Ready], rfl⟩
    · exact ⟨[], by simp [Ready], rfl⟩
  obtain ⟨read, rfl, hreading⟩ := reading_of_readFrom (.inl rfl) hread
  refine ⟨ts, before, read, behind, tokenize_eq_ok_iff.mpr hlexes, fun t ht => ?_, hready, hobjection,
    hbehind, bodyTokens_eq hreading.not_semicolon hbehind rfl hts,
    hasTrailingComma_body hbehind rfl hts, hreading⟩
  refine hlexes.lexical t ?_
  rcases hts with rfl | ⟨rfl, -⟩ <;> simp [ht]

theorem BodyOf.segments_eq {before : List Lambda.Token} (h : BodyOf f ts before read behind) :
    segments f = segmentsFrom f 0 none read := by
  simp only [segments, h.tokenize, h.expression]
  split
  next => exact absurd rfl h.reading.ne_nil
  next => rfl

/-! ## Compiling and reading back -/

/-- **Compiling a predicate to which nothing objects.** -/
theorem BodyOf.compile_of_none {before : List Lambda.Token} (h : BodyOf f ts before read behind)
    (ho : objectionFrom? f [] ts = none) :
    ∃ text, compile f = .ok text ∧ Outcome f.hasTrailingComma f.body (Filter.parse text) ∧
      Askable f f.body := by
  obtain ⟨ws, hcarries⟩ := carries_of_reading h.reading h.ready (h.objection ▸ ho)
  obtain ⟨text, ⟨pieces, hpieces, hemit⟩, hspells, -⟩ := hcarries.emits h.lexical none rfl
  refine ⟨text, ?_, ?_, hcarries.askable (by simp) trivial⟩
  · have hsegments : segments f = .ok pieces := h.segments_eq.trans hpieces
    rw [compile, hsegments]
    exact hemit
  · have hcomma : f.hasTrailingComma = hasTrailingComma read := by
      simp only [Lambda.hasTrailingComma, h.tokenize, h.trailingComma]
    have hfilter : Filter.parse text = runFrom (imageState [] .operand) ws := by
      have htokenize : Filter.tokenize text = .ok ws := hspells 0
      rw [Filter.parse, htokenize]
      rfl
    rw [hcomma, hfilter]
    exact hcarries.runFrom

/-- **Compiling an eligible predicate.** -/
theorem compile_of_eligible (hparse : Lambda.parse source = .ok f) (heligible : isEligible f = true) :
    ∃ text, compile f = .ok text ∧ Outcome f.hasTrailingComma f.body (Filter.parse text) ∧
      Askable f f.body ∧ ∃ p, f.params = [p] := by
  obtain ⟨ts, before, read, behind, hbody⟩ := exists_bodyOf hparse
  obtain ⟨hlen, hobjection⟩ := (isEligible_iff hbody.tokenize).mp heligible
  obtain ⟨text, hcompile, houtcome, haskable⟩ := hbody.compile_of_none hobjection
  exact ⟨text, hcompile, houtcome, haskable, List.length_eq_one_iff.mp hlen⟩

/-- **The filter text of an eligible predicate is grammatical** unless a call in it has a trailing
comma. -/
theorem grammatical_iff (hparse : Lambda.parse source = .ok f) (heligible : isEligible f = true) :
    ∃ text, compile f = .ok text ∧
      ((∃ filter, Filter.parse text = .ok filter) ↔ f.hasTrailingComma = false) := by
  obtain ⟨text, hcompile, houtcome, -⟩ := compile_of_eligible hparse heligible
  refine ⟨text, hcompile, ?_⟩
  cases hcomma : f.hasTrailingComma with
  | false =>
    rw [hcomma] at houtcome
    exact ⟨fun _ => rfl, fun _ => ⟨_, houtcome⟩⟩
  | true =>
    rw [hcomma] at houtcome
    obtain ⟨err, herr⟩ := houtcome
    refine ⟨fun ⟨filter, hfilter⟩ => ?_, fun h => nomatch h⟩
    rw [herr] at hfilter
    cases hfilter

/-- A predicate without a comma in front of a closing parenthesis. -/
theorem grammatical_calls :
    ∃ f text, Lambda.parse "row => return startswith(tolower(row.name), 'a') || !!(-row.n != 1);" = .ok f ∧
      compile f = .ok text ∧
        ((∃ filter, Filter.parse text = .ok filter) ↔ f.hasTrailingComma = false) := by
  obtain ⟨f, hparse, heligible⟩ : ∃ f,
      Lambda.parse "row => return startswith(tolower(row.name), 'a') || !!(-row.n != 1);" = .ok f ∧
        isEligible f = true := by decide +kernel
  obtain ⟨text, hcompile, hiff⟩ := grammatical_iff hparse heligible
  exact ⟨f, text, hparse, hcompile, hiff⟩

/-- A trailing comma is read, passes as eligible and is compiled, into a text that is no filter. -/
theorem trailing_comma_ungrammatical :
    ∃ f text err, Lambda.parse "r => length(r.a,) == 3" = .ok f ∧ isEligible f = true ∧
      compile f = .ok text ∧ Filter.parse text = .error err := by
  obtain ⟨f, hparse, heligible, hcomma⟩ : ∃ f, Lambda.parse "r => length(r.a,) == 3" = .ok f ∧
      isEligible f = true ∧ f.hasTrailingComma = true := by decide +kernel
  obtain ⟨text, hcompile, houtcome, -⟩ := compile_of_eligible hparse heligible
  rw [hcomma] at houtcome
  obtain ⟨err, herr⟩ := houtcome
  exact ⟨f, text, err, hparse, heligible, hcompile, herr⟩

/-- **The filter means what the predicate means**: for objects and null it gives the same value or the
same failure. -/
theorem filter_eval_eq_apply (hparse : Lambda.parse source = .ok f)
    (heligible : isEligible f = true) (hcomma : f.hasTrailingComma = false)
    (hloose : f.body.everywhere Expr.isLoose = true)
    (hbound : f.body.everywhere Expr.isBound = true)
    (hwritable : f.body.everywhere Expr.isWritable = true) :
    ∃ text filter, compile f = .ok text ∧ Filter.parse text = .ok filter ∧
      ∀ record, (record = .null ∨ ∃ fields, record = .object fields) →
        filter.eval record = f.apply [record] := by
  obtain ⟨text, hcompile, houtcome, haskable, p, hparams⟩ := compile_of_eligible hparse heligible
  rw [hcomma] at houtcome
  refine ⟨text, image f.body, hcompile, houtcome, fun record hrecord => ?_⟩
  have happly : f.apply [record] = f.body.eval [(p, record)] := by
    simp [Lambda.apply, hparams]
  rw [happly]
  exact ((agrees_image True hparams haskable hloose hwritable (fun _ => hbound)
    fun _ => hrecord).2 trivial).symm

theorem filter_eval_eq_apply_limit :
    ∃ f text filter,
      Lambda.parse "row => row.price > -row.limit || tolower(row.name) == 'ann'" = .ok f ∧
        compile f = .ok text ∧ Filter.parse text = .ok filter ∧
          ∀ record, (record = .null ∨ ∃ fields, record = .object fields) →
            filter.eval record = f.apply [record] := by
  obtain ⟨f, hparse, heligible, hcomma, hloose, hbound, hwritable⟩ : ∃ f,
      Lambda.parse "row => row.price > -row.limit || tolower(row.name) == 'ann'" = .ok f ∧
        isEligible f = true ∧ f.hasTrailingComma = false ∧ f.body.everywhere Expr.isLoose = true ∧
          f.body.everywhere Expr.isBound = true ∧ f.body.everywhere Expr.isWritable = true := by
    decide +kernel
  obtain ⟨text, filter, hcompile, hfilter, hsame⟩ :=
    filter_eval_eq_apply hparse heligible hcomma hloose hbound hwritable
  exact ⟨f, text, filter, hparse, hcompile, hfilter, hsame⟩

end PushDown

end RowQuery
