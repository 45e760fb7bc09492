import RowQuery.Proofs.Lambda.Body
import RowQuery.Proofs.Lambda.Grammar

/-!
# Sentences of the expression language

```text
lambda      := params "=>" "return"? disjunction ";"*
params      := ident | "(" ident ("," ident)* ")"
disjunction := conjunction (("||"|"or") conjunction)*
conjunction := comparison (("&&"|"and") comparison)*
comparison  := sum (("=="|"==="|"!="|"!=="|"<"|"<="|">"|">=") sum)?
sum         := product (("+"|"-") product)*
product     := unary (("*"|"/"|"%") unary)*
unary       := ("!"|"-") unary | member
member      := primary ("." ident)*
primary     := literal | ident "(" (disjunction ("," disjunction)*)? ")" | ident | "(" disjunction ")"
```

`Phrase trailing params c e ts` says that the tokens `ts` are derived from the category `c`, with the tree
`e`, and `Sentence` says the same of whole lambdas. The reader accepts nothing but sentences of this grammar
and a comma behind the last argument of a call, which the grammar has only where `trailing` is set
(`parse_sentence`). The proof is an invariant over the run: `Opens` holds of the tokens read so far, and what
the run reads behind them completes a phrase (`Reading.continues`). `Written` is the part of this grammar
that has neither floats nor such commas.
-/

namespace RowQuery.Lambda

/-! ## Derivations -/

namespace Category

/-- Binary operators of a category. -/
def signs : Category → List (Token × BinaryOp)
  | disjunction => [(.connective .or .symbol, .connective .or), (.connective .or .word, .connective .or)]
  | conjunction => [(.connective .and .symbol, .connective .and), (.connective .and .word, .connective .and)]
  | comparison => [.equal, .strictEqual, .notEqual, .strictNotEqual, .less, .lessEqual, .greater,
      .greaterEqual].map fun op => (.comparison op, .comparison op)
  | sum => [(.plus, .arithmetic .add), (.minus, .arithmetic .subtract)]
  | product => [(.star, .arithmetic .multiply), (.slash, .arithmetic .divide), (.percent, .arithmetic .modulo)]
  | unary | member | primary => []

/-- The category that the operators of a category stand between. -/
def next : Category → Category
  | disjunction => conjunction
  | conjunction => comparison
  | comparison => sum
  | sum => product
  | product => unary
  | unary => member
  | member | primary => primary

/-- What may stand in front of an operator: the phrases of its own category, but no comparison in front of
another one. -/
def left : Category → Category
  | comparison => sum
  | c => c

end Category

/-- Signs in front of an operand. -/
def unarySigns : List (Token × UnaryOp) :=
  [(.bang, .not), (.minus, .negate)]

/-- Derivations of expressions, where a comma may stand behind the last argument of a call if `trailing` is
set. -/
inductive Phrase (trailing : Bool) (params : List String) : Category → Expr → List Token → Prop where
  /-- A tighter category may stand where a looser one is asked for. -/
  | tighter {c d : Category} {e : Expr} {ts : List Token} (hrank : c.rank ≤ d.rank)
      (h : Phrase trailing params d e ts) : Phrase trailing params c e ts
  | binary {c : Category} {sign : Token} {op : BinaryOp} {left right : Expr} {ls rs : List Token}
      (hsign : (sign, op) ∈ c.signs) (hleft : Phrase trailing params c.left left ls)
      (hright : Phrase trailing params c.next right rs) :
      Phrase trailing params c (.binary op left right) (ls ++ sign :: rs)
  | unary {sign : Token} {op : UnaryOp} {e : Expr} {ts : List Token} (hsign : (sign, op) ∈ unarySigns)
      (h : Phrase trailing params .unary e ts) : Phrase trailing params .unary (.unary op e) (sign :: ts)
  | property {object : Expr} {ts : List Token} (name : String) (h : Phrase trailing params .member object ts) :
      Phrase trailing params .member (.property object name) (ts ++ [Token.dot, .ident name])
  | float (x : Float) : Phrase trailing params .primary (.float x) [.float x]
  | int (n : Int64) : Phrase trailing params .primary (.int n) [.int n]
  | str (s : String) : Phrase trailing params .primary (.str s) [.str s]
  | bool (b : Bool) : Phrase trailing params .primary (.bool b) [.bool b]
  | null : Phrase trailing params .primary .null [.null]
  | param {name : String} (h : name ∈ params) : Phrase trailing params .primary (.param name) [.ident name]
  | ident {name : String} (h : name ∉ params) : Phrase trailing params .primary (.ident name) [.ident name]
  | call {args : List (Expr × List Token)} (name : String)
      (hargs : ∀ a ∈ args, Phrase trailing params .disjunction a.1 a.2) :
      Phrase trailing params .primary (.call name (args.map (·.1)))
        (.ident name :: .lparen :: (separated (args.map (·.2)) ++ [Token.rparen]))
  | trailingComma {args : List (Expr × List Token)} (name : String) (htrailing : trailing = true)
      (hne : args ≠ []) (hargs : ∀ a ∈ args, Phrase trailing params .disjunction a.1 a.2) :
      Phrase trailing params .primary (.call name (args.map (·.1)))
        (.ident name :: .lparen :: (separated (args.map (·.2)) ++ [Token.comma, .rparen]))
  | parentheses {e : Expr} {ts : List Token} (h : Phrase trailing params .disjunction e ts) :
      Phrase trailing params .primary e (Token.lparen :: (ts ++ [Token.rparen]))

/-- Derivations of lambdas. -/
inductive Sentence (trailing : Bool) (params : List String) (body : Expr) : List Token → Prop where
  | intro {head ts : List Token} (returns : Bool) (semicolons : Nat) (hparams : WrittenParams params head)
      (hbody : Phrase trailing params .disjunction body ts) :
      Sentence trailing params body (head ++ Token.arrow ::
        ((if returns then [.returnWord] else []) ++ ts ++ List.replicate semicolons .semicolon))

variable {trailing : Bool} {params : List String} {c : Category} {e r : Expr} {stack : Stack} {t : Token}
  {ts us rest : List Token} {op : BinaryOp} {name : String}

/-! ## Signs and levels -/

theorem exists_mem_signs (h : t.binaryOp? = some op) : ∃ c : Category, (t, op) ∈ c.signs := by
  cases t with
  | comparison op =>
    cases h
    exact ⟨.comparison, by cases op <;> decide⟩
  | connective op spelling =>
    cases h
    cases op with
    | and => exact ⟨.conjunction, by cases spelling <;> decide⟩
    | or => exact ⟨.disjunction, by cases spelling <;> decide⟩
  | plus | minus => cases h; exact ⟨.sum, by decide⟩
  | star | slash | percent => cases h; exact ⟨.product, by decide⟩
  | _ => cases h

theorem level_of_mem_signs (h : (t, op) ∈ c.signs) : precedence.level op = c.rank ∧
    precedence.leftLevel op = c.left.rank ∧ precedence.level op + 1 = c.next.rank := by
  have hall : ∀ s ∈ c.signs, precedence.level s.2 = c.rank ∧ precedence.leftLevel s.2 = c.left.rank ∧
      precedence.level s.2 + 1 = c.next.rank := by
    cases c <;> decide
  exact hall _ h

theorem mem_unarySigns {op : UnaryOp} (h : t.unaryOp? = some op) : (t, op) ∈ unarySigns := by
  cases t with
  | bang | minus => cases h; decide
  | _ => cases h

/-- The grammar with levels in the place of categories. -/
def grammar (trailing : Bool) (params : List String) : precedence.Grammar Token where
  Phrase level e ts := ∃ c : Category, level ≤ c.rank ∧ Phrase trailing params c e ts
  UnarySign op t := t.unaryOp? = some op
  BinarySign op t := t.binaryOp? = some op
  bound := Category.unary.rank
  name := .ident
  Callable _ := True
  lparen := .lparen
  comma := .comma
  leftLevel_lt := leftLevel_lt_unary
  looser hk h := by
    obtain ⟨c, hc, h⟩ := h
    exact ⟨c, Nat.le_trans hk hc, h⟩
  unary hsign h := by
    obtain ⟨c, hc, h⟩ := h
    exact ⟨.unary, Nat.le_refl _, .unary (mem_unarySigns hsign) (.tighter hc h)⟩
  binary hsign hleft hright := by
    obtain ⟨c, hsign⟩ := exists_mem_signs hsign
    obtain ⟨hlevel, hleftLevel, hnext⟩ := level_of_mem_signs hsign
    obtain ⟨a, ha, hleft⟩ := hleft
    obtain ⟨b, hb, hright⟩ := hright
    rw [hleftLevel] at ha
    rw [hnext] at hb
    exact ⟨c, Nat.le_of_eq hlevel, .binary hsign (.tighter ha hleft) (.tighter hb hright)⟩

theorem phrase_disjunction {level : Nat} (h : (grammar trailing params).Phrase level e ts) :
    Phrase trailing params .disjunction e ts := by
  obtain ⟨c, -, h⟩ := h
  exact .tighter (by cases c <;> decide) h

theorem phrase_call_nil (trailing : Bool) (params : List String) (name : String) :
    Phrase trailing params .primary (.call name []) [.ident name, .lparen, .rparen] :=
  .call name (List.forall_mem_nil fun a : Expr × List Token => Phrase trailing params .disjunction a.1 a.2)

theorem Phrase.operand (h : Phrase trailing params .member e ts) :
    (grammar trailing params).Phrase (grammar trailing params).bound e ts :=
  ⟨.member, (by decide : Category.unary.rank ≤ Category.member.rank), h⟩

theorem phrase_literal (ht : t.literal? = some e) : Phrase trailing params .member e [t] := by
  refine .tighter (by decide : Category.member.rank ≤ Category.primary.rank) ?_
  cases t with
  | float x => cases ht; exact .float x
  | int n => cases ht; exact .int n
  | str s => cases ht; exact .str s
  | bool b => cases ht; exact .bool b
  | null => cases ht; exact .null
  | _ => cases ht

theorem phrase_resolve (trailing : Bool) (params : List String) (name : String) :
    Phrase trailing params .member (resolve params name) [.ident name] := by
  refine .tighter (by decide : Category.member.rank ≤ Category.primary.rank) ?_
  by_cases hname : name ∈ params
  · have hresolve : resolve params name = .param name := by simp [resolve, hname]
    exact hresolve ▸ .param hname
  · have hresolve : resolve params name = .ident name := by simp [resolve, hname]
    exact hresolve ▸ .ident hname

/-! ## What the reader accepts is a phrase -/

/-- A closing parenthesis behind a group. -/
theorem close_group (hopens : (grammar trailing params).Opens (.group :: stack) us)
    (he : (grammar trailing params).Phrase 0 e ts) : ∃ us' cs, (grammar trailing params).Opens stack us' ∧
      Phrase trailing params .member e cs ∧ us ++ ts ++ [Token.rparen] = us' ++ cs := by
  obtain ⟨us', hbelow, rfl⟩ := hopens.of_group
  have hgroup := Phrase.tighter (by decide : Category.member.rank ≤ Category.primary.rank)
    (.parentheses (phrase_disjunction he))
  exact ⟨us', _, hbelow, hgroup, by simp [grammar]⟩

/-- A closing parenthesis behind an argument. -/
theorem close_call {args : List Expr} (hopens : (grammar trailing params).Opens (.call name args :: stack) us)
    (he : (grammar trailing params).Phrase 0 e ts) : ∃ us' cs, (grammar trailing params).Opens stack us' ∧
      Phrase trailing params .member (.call name (args ++ [e])) cs ∧ us ++ ts ++ [Token.rparen] = us' ++ cs := by
  obtain ⟨us', written, hbelow, -, rfl, hargs, rfl⟩ := hopens.of_call
  have hall : ∀ a ∈ written ++ [(e, ts)], Phrase trailing params .disjunction a.1 a.2 :=
    List.forall_mem_append.mpr ⟨fun a ha => phrase_disjunction (hargs a ha),
      List.forall_mem_singleton.mpr (phrase_disjunction he)⟩
  have hcall := Phrase.tighter (by decide : Category.member.rank ≤ Category.primary.rank) (.call name hall)
  rw [separated_eq, List.map_append, List.map_append] at hcall
  refine ⟨us', _, hbelow, hcall, ?_⟩
  simp [grammar, Precedence.intercalate_concat, List.flatMap_map]

/-- A closing parenthesis behind no argument: the list is empty, or a comma is in front of it. -/
theorem close_arguments {args : List Expr} (hopens : (grammar true params).Opens (.call name args :: stack) us) :
    ∃ us' cs, (grammar true params).Opens stack us' ∧ Phrase true params .member (.call name args) cs ∧
      us ++ [Token.rparen] = us' ++ cs := by
  obtain ⟨us', written, hbelow, -, rfl, hargs, rfl⟩ := hopens.of_call
  have hprimary : Category.member.rank ≤ Category.primary.rank := by decide
  by_cases hnone : written = []
  · subst hnone
    exact ⟨us', _, hbelow, .tighter hprimary (phrase_call_nil true params name), by simp [grammar]⟩
  · have hne : written.map (·.2) ≠ [] := by simpa using hnone
    have hcall := Phrase.tighter hprimary
      (.trailingComma name rfl hnone fun a ha => phrase_disjunction (hargs a ha))
    have hcommas := Precedence.flatMap_append_eq hne [Token.comma]
    rw [List.flatMap_map] at hcommas
    refine ⟨us', _, hbelow, hcall, ?_⟩
    simp [grammar, separated_eq, hcommas]

/-- Behind the tokens that have opened the stack, and those of the operand where one is complete, the tokens
`ts` make the expression `r`. -/
def Continues (params : List String) (r : Expr) (stack : Stack) (mode : Mode) (ts : List Token) : Prop :=
  ∀ us, (grammar true params).Opens stack us →
    match mode with
    | .operand | .argument => Phrase true params .disjunction r (us ++ ts)
    | .complete e => ∀ es, Phrase true params .member e es → Phrase true params .disjunction r (us ++ es ++ ts)
    | _ => True

/-- **A run of the reader reads a phrase**, together with the tokens that have opened its stack. -/
theorem Reading.continues {mode : Mode} (h : Reading params rest r stack mode ts) :
    Continues params r stack mode ts := by
  induction h with
  | literal ht h ih =>
    intro us hopens
    simpa using ih us hopens _ (phrase_literal ht)
  | @name stack name ts hdot hparen h ih =>
    intro us hopens
    simpa using ih us hopens _ (phrase_resolve true params name)
  | @nameProperty stack name x ts h ih =>
    intro us hopens
    simpa using ih us hopens _ (.property x (phrase_resolve true params name))
  | @call stack name ts h ih =>
    intro us hopens
    simpa [grammar] using ih _ (hopens.call_nil trivial)
  | group h ih =>
    intro us hopens
    simpa [grammar] using ih _ (.group hopens)
  | unary ht h ih =>
    intro us hopens
    simpa using ih _ (.unary hopens ht)
  | noArgument h ih =>
    intro us hopens
    obtain ⟨us', cs, hbelow, hcall, heq⟩ := close_arguments hopens
    simpa [← heq] using ih us' hbelow cs hcall
  | argument h ih => exact ih
  | property h ih =>
    intro us hopens es he
    simpa using ih us hopens _ (.property _ he)
  | binary ht hs h ih =>
    intro us hopens es he
    simpa using ih _ (hopens.await he.operand ht hs)
  | closeGroup hs h ih =>
    intro us hopens es he
    obtain ⟨us', ts', hreduced, hinner, heq⟩ := hopens.reduce_zero he.operand hs
    obtain ⟨us'', cs, hbelow, hgroup, heq'⟩ := close_group hreduced hinner
    simpa [← heq', heq] using ih us'' hbelow cs hgroup
  | closeCall hs h ih =>
    intro us hopens es he
    obtain ⟨us', ts', hreduced, hlast, heq⟩ := hopens.reduce_zero he.operand hs
    obtain ⟨us'', cs, hbelow, hcall, heq'⟩ := close_call hreduced hlast
    simpa [← heq', heq] using ih us'' hbelow cs hcall
  | nextArgument hs h ih =>
    intro us hopens es he
    obtain ⟨us', ts', hreduced, hlast, heq⟩ := hopens.reduce_zero he.operand hs
    simpa [heq, grammar] using ih _ (hreduced.argument hlast)
  | finish hs =>
    intro us hopens es he
    obtain ⟨us', ts', hreduced, hphrase, heq⟩ := hopens.reduce_zero he.operand hs
    rw [List.append_nil, heq, hreduced.of_empty]
    exact phrase_disjunction hphrase

/-! ## Whole lambdas -/

theorem written_of_paramList {fault : Option LexError} {seen : List String}
    (h : paramList fault seen ts = .ok (params, rest)) (hseen : seen.Nodup) :
    params.Nodup ∧ ∃ names, names ≠ [] ∧ params = seen ++ names ∧
      ts = separated (names.map fun name => [.ident name]) ++ Token.rparen :: rest := by
  fun_induction paramList fault seen ts with
  | case1 seen name behind ih =>
    obtain ⟨-, -, h⟩ := bind_eq_ok.mp h
    split at h
    next => cases h
    next hnew =>
      have hnodup : (seen ++ [name]).Nodup := by
        rw [← List.concat_eq_append]
        exact hseen.concat (by simpa using hnew)
      split at h
      next behind =>
        obtain ⟨-, -, h⟩ := bind_eq_ok.mp h
        obtain ⟨hparams, names, hne, rfl, rfl⟩ := ih h hnodup
        refine ⟨hparams, name :: names, List.cons_ne_nil name names, by simp, ?_⟩
        cases names with
        | nil => exact absurd rfl hne
        | cons next names => simp [separated]
      next behind =>
        obtain ⟨-, -, h⟩ := bind_eq_ok.mp h
        cases h
        exact ⟨hnodup, [name], List.cons_ne_nil name [], rfl, rfl⟩
      next => cases h
  | case2 => cases h

/-- Parameters have different names. -/
theorem written_of_parseParams {fault : Option LexError} (h : parseParams fault ts = .ok (params, rest)) :
    params.Nodup ∧ ∃ head, WrittenParams params head ∧ ts = head ++ rest := by
  unfold parseParams at h
  split at h
  next behind =>
    obtain ⟨-, -, h⟩ := bind_eq_ok.mp h
    obtain ⟨hnodup, names, hne, rfl, rfl⟩ := written_of_paramList h List.nodup_nil
    exact ⟨hnodup, _, .list hne, by simp⟩
  next name behind =>
    obtain ⟨-, -, h⟩ := bind_eq_ok.mp h
    cases h
    exact ⟨List.nodup_singleton name, _, .single name, rfl⟩
  next => cases h

theorem sentence_of_parseBody {head : List Token} (hparams : WrittenParams params head)
    (h : parseBody params none ts = .ok e) : Sentence true params e (head ++ Token.arrow :: ts) := by
  obtain ⟨-, inner, behind, hinner, hread, hsemicolons⟩ := parseBody_eq_ok h
  obtain ⟨read, rfl, hreading⟩ := reading_of_readFrom (.inl rfl) hread
  have hbody : Phrase true params .disjunction e read := hreading.continues [] .empty
  have hbehind : behind = List.replicate behind.length .semicolon := List.eq_replicate_of_mem hsemicolons
  rcases hinner with rfl | ⟨rfl, -⟩
  · have hsentence := Sentence.intro true behind.length hparams hbody
    rw [← hbehind] at hsentence
    simpa using hsentence
  · have hsentence := Sentence.intro false behind.length hparams hbody
    rw [← hbehind] at hsentence
    simpa using hsentence

/-! ## Trailing commas -/

/-- A closing parenthesis does not stand behind a comma. -/
def MayFollow (a b : Token) : Prop :=
  a = .comma → b ≠ .rparen

/-- There is no closing parenthesis behind a comma, also where the tokens stand between a comma and a
closing parenthesis. -/
def Tidy (ts : List Token) : Prop :=
  List.IsChain MayFollow (Token.comma :: (ts ++ [Token.rparen]))

/-- What may follow a comma may follow every token. -/
theorem Tidy.behind (h : Tidy ts) (t : Token) : List.IsChain MayFollow (t :: (ts ++ [Token.rparen])) := by
  rw [Tidy, List.isChain_cons] at h
  rw [List.isChain_cons]
  exact ⟨fun b hb _ => h.1 b hb rfl, h.2⟩

/-- What may stand in front of a closing parenthesis may stand in front of every token. -/
theorem Tidy.before (h : Tidy ts) (t : Token) : List.IsChain MayFollow (Token.comma :: ts ++ [t]) := by
  rw [Tidy, ← List.cons_append, List.isChain_append] at h
  obtain ⟨hchain, -, hlast⟩ := h
  refine List.isChain_append.mpr ⟨hchain, List.isChain_singleton t, fun a ha b hb hcomma => ?_⟩
  exact absurd rfl (hlast a ha .rparen rfl hcomma)

theorem Tidy.join {ls rs : List Token} (hleft : Tidy ls) (hright : Tidy rs) (t : Token) :
    Tidy (ls ++ t :: rs) := by
  simpa [Tidy] using List.isChain_split.mpr ⟨hleft.before t, hright.behind t⟩

theorem Tidy.cons (h : Tidy ts) (ht : t ≠ .rparen) : Tidy (t :: ts) :=
  List.isChain_cons_cons.mpr ⟨fun _ => ht, h.behind t⟩

theorem Tidy.concat (h : Tidy ts) (ht : t ≠ .comma) : Tidy (ts ++ [t]) := by
  have hclose : MayFollow t .rparen := fun hcomma => absurd hcomma ht
  have hend : List.IsChain MayFollow [.rparen] := List.isChain_singleton _
  simpa [Tidy] using List.isChain_append_cons_cons.mpr ⟨h.before t, hclose, hend⟩

theorem tidy_singleton (hcomma : t ≠ .comma) (hparen : t ≠ .rparen) : Tidy [t] := by
  simp [Tidy, MayFollow, hcomma, hparen]

theorem tidy_separated {lists : List (List Token)} (hne : lists ≠ []) (h : ∀ ts ∈ lists, Tidy ts) :
    Tidy (separated lists) := by
  fun_induction separated lists with
  | case1 => exact absurd rfl hne
  | case2 ts => exact h ts List.mem_cons_self
  | case3 ts lists hlists ih =>
    exact (h ts List.mem_cons_self).join (ih hlists fun ts' h' => h ts' (List.mem_cons_of_mem ts h')) .comma

theorem Tidy.not_trailing (h : Tidy ts) : ¬ [Token.comma, .rparen] <:+: ts := by
  rintro ⟨before, behind, rfl⟩
  have hchain : List.IsChain MayFollow
      (Token.comma :: before ++ Token.comma :: .rparen :: (behind ++ [Token.rparen])) := by
    simpa [Tidy] using h
  exact (List.isChain_append_cons_cons.mp hchain).2.1 rfl rfl

theorem Phrase.tidy (h : Phrase false params c e ts) : Tidy ts := by
  induction h with
  | tighter _ _ ih => exact ih
  | @binary _ sign _ _ _ _ _ _ _ _ ihl ihr => exact ihl.join ihr sign
  | unary hsign _ ih =>
    refine ih.cons ?_
    rintro rfl
    simp [unarySigns] at hsign
  | property name _ ih => exact ih.join (tidy_singleton Token.noConfusion Token.noConfusion) .dot
  | float | int | str | bool | null | param | ident =>
    exact tidy_singleton Token.noConfusion Token.noConfusion
  | @call args name _ ih =>
    by_cases hnone : args = []
    · subst hnone
      simp [Tidy, MayFollow, separated]
    · have hargs : Tidy (separated (args.map (·.2))) :=
        tidy_separated (by simpa using hnone) (List.forall_mem_map.mpr ih)
      exact ((hargs.concat Token.noConfusion).cons Token.noConfusion).cons Token.noConfusion
  | trailingComma name htrailing => cases htrailing
  | parentheses _ ih => exact (ih.concat Token.noConfusion).cons Token.noConfusion

theorem WrittenParams.tidy {head : List Token} (h : WrittenParams params head) : Tidy head := by
  cases h with
  | single name => exact tidy_singleton Token.noConfusion Token.noConfusion
  | list hne =>
    have hnames : Tidy (separated (params.map fun name => [.ident name])) :=
      tidy_separated (by simpa using hne)
        (List.forall_mem_map.mpr fun name _ => tidy_singleton Token.noConfusion Token.noConfusion)
    exact (hnames.concat Token.noConfusion).cons Token.noConfusion

theorem Sentence.tidy (h : Sentence false params e ts) : Tidy ts := by
  obtain ⟨returns, semicolons, hparams, hbody⟩ := h
  refine hparams.tidy.join ?_ .arrow
  induction semicolons with
  | zero =>
    cases returns with
    | true => simpa using hbody.tidy.cons Token.noConfusion
    | false => simpa using hbody.tidy
  | succ semicolons ih =>
    rw [List.replicate_succ', ← List.append_assoc]
    exact ih.concat Token.noConfusion

theorem mem_separated {lists : List (List Token)} (h : ts ∈ lists) : ts <:+: separated lists := by
  fun_induction separated lists with
  | case1 => cases h
  | case2 ts' =>
    rw [List.mem_singleton.mp h]
  | case3 ts' lists hlists ih =>
    rcases List.mem_cons.mp h with rfl | h
    · exact ⟨[], _, rfl⟩
    · exact (ih h).trans ⟨ts' ++ [Token.comma], [], by simp⟩

/-- Without trailing commas, the grammar that allows them derives nothing more. -/
theorem Phrase.strict (h : Phrase true params c e ts) (htrailing : ¬ [Token.comma, .rparen] <:+: ts) :
    Phrase false params c e ts := by
  have hpart {ts us : List Token} (hus : us <:+: ts) (h : ¬ [Token.comma, .rparen] <:+: ts) :
      ¬ [Token.comma, .rparen] <:+: us := fun hin => h (hin.trans hus)
  induction h with
  | tighter hrank _ ih => exact .tighter hrank (ih htrailing)
  | @binary _ sign _ _ _ ls rs hsign _ _ ihl ihr =>
    have hleft : ls <:+: ls ++ sign :: rs := ⟨[], sign :: rs, rfl⟩
    have hright : rs <:+: ls ++ sign :: rs := ⟨ls ++ [sign], [], by simp⟩
    exact .binary hsign (ihl (hpart hleft htrailing)) (ihr (hpart hright htrailing))
  | @unary sign _ _ ts hsign _ ih =>
    have hoperand : ts <:+: sign :: ts := ⟨[sign], [], by simp⟩
    exact .unary hsign (ih (hpart hoperand htrailing))
  | @property _ ts name _ ih =>
    have hobject : ts <:+: ts ++ [Token.dot, .ident name] := ⟨[], [.dot, .ident name], rfl⟩
    exact .property name (ih (hpart hobject htrailing))
  | float x => exact .float x
  | int n => exact .int n
  | str s => exact .str s
  | bool b => exact .bool b
  | null => exact .null
  | param h => exact .param h
  | ident h => exact .ident h
  | @call args name _ ih =>
    have hargs : separated (args.map (·.2)) <:+:
        .ident name :: .lparen :: (separated (args.map (·.2)) ++ [Token.rparen]) :=
      ⟨[.ident name, .lparen], [.rparen], by simp⟩
    refine .call name fun a ha => ih a ha (hpart ?_ htrailing)
    exact (mem_separated (List.mem_map_of_mem ha)).trans hargs
  | @trailingComma args name _ _ _ _ =>
    exact absurd ⟨.ident name :: .lparen :: separated (args.map (·.2)), [], by simp⟩ htrailing
  | @parentheses _ ts _ ih =>
    have hinner : ts <:+: .lparen :: (ts ++ [Token.rparen]) := ⟨[.lparen], [.rparen], by simp⟩
    exact .parentheses (ih (hpart hinner htrailing))

theorem Sentence.strict (h : Sentence true params e ts) (htrailing : ¬ [Token.comma, .rparen] <:+: ts) :
    Sentence false params e ts := by
  cases h with
  | @intro head body returns semicolons hparams hbody =>
    have hpart : body <:+: head ++ Token.arrow ::
        ((if returns then [.returnWord] else []) ++ body ++ List.replicate semicolons .semicolon) :=
      ⟨head ++ Token.arrow :: (if returns then [.returnWord] else []),
        List.replicate semicolons .semicolon, by simp⟩
    exact .intro returns semicolons hparams (hbody.strict fun hin => htrailing (hin.trans hpart))

/-! ## The parser and the grammar -/

/-- **The parser accepts nothing but sentences**, and a comma behind the last argument of a call: the
parameters of a lambda that parses have different names, its tokens are a sentence with its body as the tree,
and they are one of the grammar without such commas exactly if they have none. -/
theorem parse_sentence {source : String} {f : Lambda} (h : parse source = .ok f) :
    f.params.Nodup ∧ ∃ tokens, tokenize source.toList = .ok tokens ∧
      Sentence true f.params f.body tokens ∧
        ((∃ params body, Sentence false params body tokens) ↔ ¬ [Token.comma, .rparen] <:+: tokens) := by
  obtain ⟨-, hfault, rest, hparams, hbody⟩ := parse_eq_ok h
  obtain ⟨hnodup, head, hhead, htokens⟩ := written_of_parseParams hparams
  have hsentence := sentence_of_parseBody hhead hbody
  rw [← htokens] at hsentence
  refine ⟨hnodup, (lex source.toList).tokens, ?_, hsentence, ?_⟩
  · simp only [tokenize, hfault]
  · constructor
    · rintro ⟨params, body, hstrict⟩
      exact hstrict.tidy.not_trailing
    · intro htrailing
      exact ⟨f.params, f.body, hsentence.strict htrailing⟩

theorem parse_sentence_total : ∃ f tokens,
    parse "(r, s) => return total(r.a, -s.b) >= 1.5;" = .ok f ∧ f.params.Nodup ∧
      tokenize "(r, s) => return total(r.a, -s.b) >= 1.5;".toList = .ok tokens ∧
        ∃ params body, Sentence false params body tokens := by
  have hparse : ∃ f, parse "(r, s) => return total(r.a, -s.b) >= 1.5;" = .ok f ∧ True := by decide +kernel
  have htidy : ∃ tokens, tokenize "(r, s) => return total(r.a, -s.b) >= 1.5;".toList = .ok tokens ∧
      ¬ [Token.comma, .rparen] <:+: tokens := by decide +kernel
  obtain ⟨f, hf, -⟩ := hparse
  obtain ⟨tokens, htokens, htrailing⟩ := htidy
  obtain ⟨hnodup, tokens', htokens', -, hstrict⟩ := parse_sentence hf
  cases htokens.symm.trans htokens'
  exact ⟨f, tokens, hf, hnodup, htokens, hstrict.mpr htrailing⟩

/-- The parser accepts a comma behind the last argument, which the grammar does not derive. -/
theorem parse_trailing_comma : ∃ f tokens, parse "r => f(r,)" = .ok f ∧
    tokenize "r => f(r,)".toList = .ok tokens ∧ ¬ ∃ params body, Sentence false params body tokens := by
  have hparse : ∃ f, parse "r => f(r,)" = .ok f ∧ True := by decide +kernel
  have htokens : ∃ tokens, tokenize "r => f(r,)".toList = .ok tokens ∧
      [Token.comma, .rparen] <:+: tokens := by decide +kernel
  obtain ⟨f, hf, -⟩ := hparse
  obtain ⟨tokens, htokens, htrailing⟩ := htokens
  refine ⟨f, tokens, hf, htokens, ?_⟩
  rintro ⟨params, body, hsentence⟩
  exact hsentence.tidy.not_trailing htrailing

end RowQuery.Lambda
