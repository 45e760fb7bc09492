import RowQuery.Filter.Parser
import RowQuery.Proofs.Failure
import RowQuery.Proofs.Phrase

/-!
# The grammar of filters

```text
disjunction := conjunction ("or" conjunction)*
conjunction := comparison ("and" comparison)*
comparison  := additive (("eq"|"ne"|"gt"|"ge"|"lt"|"le") additive)?
additive    := term (("+"|"-") term)*
term        := unary (("*"|"/"|"%") unary)*
unary       := ("not"|"-") unary | primary
primary     := literal | property | function "(" args? ")" | "(" disjunction ")"
```

`Phrase c e ts` says that the tokens `ts` are derived from the category `c`, and that `e` is the tree of the
derivation. What follows one of the stars is a list that grows at its end, so that its operators group to
the left. The parser accepts the sentences of this grammar, all of them and with their trees, and nothing
else (`parse_eq_ok_iff`).
-/

namespace RowQuery.Filter

/-! ## Derivations -/

/-- Categories of filters, the loosest first. -/
inductive Category where
  | disjunction
  | conjunction
  | comparison
  | additive
  | term
  | unary
  | primary
  deriving DecidableEq

namespace Category

def rank : Category → Nat
  | disjunction => 1
  | conjunction => 2
  | comparison => 3
  | additive => 4
  | term => 5
  | unary => 6
  | primary => 7

/-- Binary operators of a category. -/
def signs : Category → List (Token × Op)
  | disjunction => [(.word "or", .connective .or)]
  | conjunction => [(.word "and", .connective .and)]
  | comparison => [(.word "eq", .relation .equal), (.word "ne", .relation .notEqual),
      (.word "gt", .relation .greater), (.word "ge", .relation .greaterEqual),
      (.word "lt", .relation .less), (.word "le", .relation .lessEqual)]
  | additive => [(.plus, .arithmetic .add), (.minus, .arithmetic .subtract)]
  | term => [(.star, .arithmetic .multiply), (.slash, .arithmetic .divide), (.percent, .arithmetic .modulo)]
  | unary | primary => []

/-- The category that the operators of a category stand between. -/
def next : Category → Category
  | disjunction => conjunction
  | conjunction => comparison
  | comparison => additive
  | additive => term
  | term => unary
  | unary | primary => primary

/-- What may stand in front of an operator: the phrases of its own category, but no comparison in front of a
relation. -/
def left : Category → Category
  | comparison => additive
  | c => c

end Category

/-- Signs in front of an operand. -/
def unarySigns : List (Token × UnaryOp) :=
  [(.word "not", .not), (.minus, .negate)]

inductive Phrase : Category → Expr → List Token → Prop where
  /-- A tighter category may stand where a looser one is asked for. -/
  | tighter {c d : Category} {e : Expr} {ts : List Token} (hrank : c.rank ≤ d.rank) (h : Phrase d e ts) :
      Phrase c e ts
  | binary {c : Category} {sign : Token} {op : Op} {left right : Expr} {ls rs : List Token}
      (hsign : (sign, op) ∈ c.signs) (hleft : Phrase c.left left ls) (hright : Phrase c.next right rs) :
      Phrase c (.binary op left right) (ls ++ sign :: rs)
  | unary {sign : Token} {op : UnaryOp} {e : Expr} {ts : List Token} (hsign : (sign, op) ∈ unarySigns)
      (h : Phrase .unary e ts) : Phrase .unary (.unary op e) (sign :: ts)
  | int (n : Int64) : Phrase .primary (.literal (.int n)) [.int n]
  | float (x : Float) : Phrase .primary (.literal (.float x)) [.float x]
  | str (s : String) : Phrase .primary (.literal (.str s)) [.str s]
  | true : Phrase .primary (.literal (.bool true)) [.word "true"]
  | false : Phrase .primary (.literal (.bool false)) [.word "false"]
  | null : Phrase .primary (.literal .null) [.word "null"]
  | property {name : String} (hname : name ∉ reservedWords) : Phrase .primary (.property name) [.word name]
  | call {name : String} {args : List (Expr × List Token)} (hname : Builtin.isNative name = true)
      (hargs : ∀ a ∈ args, Phrase .disjunction a.1 a.2) :
      Phrase .primary (.call name (args.map (·.1)))
        (.word name :: .lparen :: ([Token.comma].intercalate (args.map (·.2)) ++ [Token.rparen]))
  | parentheses {e : Expr} {ts : List Token} (h : Phrase .disjunction e ts) :
      Phrase .primary e (Token.lparen :: (ts ++ [Token.rparen]))

variable {c : Category} {e left right : Expr} {stack stack' : Stack} {s s' : State} {t : Token}
  {ts us ls rs read : List Token} {op : Op} {level : Nat} {name w : String}

/-! ## Signs and levels -/

theorem op_of_mem_signs (h : (t, op) ∈ c.signs) : t.op? = some op := by
  have hall : ∀ s ∈ c.signs, s.1.op? = some s.2 := by
    cases c <;> decide
  exact hall _ h

theorem exists_mem_signs (h : t.op? = some op) : ∃ c : Category, (t, op) ∈ c.signs := by
  cases t with
  | plus | minus => cases h; exact ⟨.additive, by simp [Category.signs]⟩
  | star | slash | percent => cases h; exact ⟨.term, by simp [Category.signs]⟩
  | word w =>
    rw [Token.op?] at h
    split at h
    next hw => cases h; exact ⟨.conjunction, by simp [Category.signs, hw]⟩
    split at h
    next hw => cases h; exact ⟨.disjunction, by simp [Category.signs, hw]⟩
    obtain ⟨relation, hrelation, rfl⟩ := Option.map_eq_some_iff.mp h
    refine ⟨.comparison, ?_⟩
    unfold Relation.ofWord? at hrelation
    repeat' split at hrelation
    all_goals cases hrelation
    all_goals simp [Category.signs, *]
  | _ => cases h

theorem level_of_mem_signs (h : (t, op) ∈ c.signs) : precedence.level op = c.rank ∧
    precedence.leftLevel op = c.left.rank ∧ precedence.level op + 1 = c.next.rank := by
  have hall : ∀ s ∈ c.signs, precedence.level s.2 = c.rank ∧ precedence.leftLevel s.2 = c.left.rank ∧
      precedence.level s.2 + 1 = c.next.rank := by
    cases c <;> decide
  exact hall _ h

/-- The grammar with levels in the place of categories. -/
def grammar : precedence.Grammar Token where
  Phrase level e ts := ∃ c : Category, level ≤ c.rank ∧ Phrase c e ts
  UnarySign op t := (t, op) ∈ unarySigns
  BinarySign op t := t.op? = some op
  bound := Category.unary.rank
  name := .word
  Callable name := Builtin.isNative name = true
  lparen := .lparen
  comma := .comma
  leftLevel_lt op := by
    rcases op with op | op | op <;> cases op <;> decide
  looser hk h := by
    obtain ⟨c, hc, h⟩ := h
    exact ⟨c, Nat.le_trans hk hc, h⟩
  unary hsign h := by
    obtain ⟨c, hc, h⟩ := h
    exact ⟨.unary, Nat.le_refl _, .unary hsign (.tighter hc h)⟩
  binary hsign hleft hright := by
    obtain ⟨c, hsign⟩ := exists_mem_signs hsign
    obtain ⟨hlevel, hleftLevel, hnext⟩ := level_of_mem_signs hsign
    obtain ⟨a, ha, hleft⟩ := hleft
    obtain ⟨b, hb, hright⟩ := hright
    rw [hleftLevel] at ha
    rw [hnext] at hb
    exact ⟨c, Nat.le_of_eq hlevel, .binary hsign (.tighter ha hleft) (.tighter hb hright)⟩

theorem phrase_disjunction (h : grammar.Phrase level e ts) : Phrase .disjunction e ts := by
  obtain ⟨c, -, h⟩ := h
  exact .tighter (by cases c <;> decide) h

theorem phrase_call_nil (hname : Builtin.isNative name = true) :
    Phrase .primary (.call name []) [.word name, .lparen, .rparen] :=
  .call hname (List.forall_mem_nil fun a : Expr × List Token => Phrase .disjunction a.1 a.2)

theorem Phrase.operand (h : Phrase .primary e ts) : grammar.Phrase grammar.bound e ts :=
  ⟨.primary, by decide, h⟩

/-! ## Names -/

theorem forall_native {P : String → Prop} (hall : ∀ b ∈ Builtin.nativeFunctions, P b.1)
    (h : Builtin.isNative name = true) : P name := by
  obtain ⟨b, hb, hname⟩ := List.any_eq_true.mp h
  exact of_decide_eq_true hname ▸ hall b hb

theorem native_not_reserved (h : Builtin.isNative name = true) : isReserved name = false :=
  forall_native (P := fun name => isReserved name = false) (by decide) h

theorem stepWord_of_not_reserved (h : isReserved name = false) :
    stepWord stack name = .ok ⟨stack, .name name⟩ := by
  have hne : ∀ word, isReserved word = true → name ≠ word := by
    rintro word hword rfl
    rw [hword] at h
    cases h
  rw [stepWord, if_neg (hne _ (by decide)), if_neg (hne _ (by decide)), if_neg (hne _ (by decide)),
    if_neg (hne _ (by decide)), h]
  rfl

/-- A state in which an operand is complete: a name is the property, unless a parenthesis follows. -/
inductive Completed (stack : Stack) : Expr → State → Prop where
  | operand (e : Expr) : Completed stack e ⟨stack, .complete e⟩
  | property (name : String) : Completed stack (.property name) ⟨stack, .name name⟩

theorem Completed.step_eq (h : Completed stack e s) (ht : t ≠ .lparen) : step s t = stepComplete stack e t := by
  cases h with
  | operand e => rfl
  | property name => exact if_neg ht

theorem Completed.finish_eq (h : Completed stack e s) : finish s = closeEnd stack e := by
  cases h <;> rfl

/-! ## What the parser accepts is a sentence -/

/-- What the tokens are that have brought the parser to a state. -/
def Reached (s : State) (read : List Token) : Prop :=
  match s.mode with
  | .operand => grammar.Opens s.stack read
  | .firstArgument => grammar.Opens s.stack read ∧ ∃ name stack, s.stack = .call name [] :: stack
  | .name name => ∃ us, grammar.Opens s.stack us ∧ name ∉ reservedWords ∧ read = us ++ [Token.word name]
  | .complete e => ∃ us ts, grammar.Opens s.stack us ∧ Phrase .primary e ts ∧ read = us ++ ts

theorem reached_stepWord (h : grammar.Opens stack us) (hs : stepWord stack w = .ok s') :
    Reached s' (us ++ [Token.word w]) := by
  unfold stepWord at hs
  split at hs
  next hw =>
    cases hs
    rw [hw]
    exact .unary h (by simp [grammar, unarySigns])
  split at hs
  next hw =>
    cases hs
    exact ⟨us, _, h, .true, by rw [hw]⟩
  split at hs
  next hw =>
    cases hs
    exact ⟨us, _, h, .false, by rw [hw]⟩
  split at hs
  next hw =>
    cases hs
    exact ⟨us, _, h, .null, by rw [hw]⟩
  split at hs
  · cases hs
  next hreserved =>
    cases hs
    exact ⟨us, h, by simpa [isReserved] using hreserved, rfl⟩

theorem reached_stepOperand (h : grammar.Opens stack us) (hs : stepOperand stack t = .ok s') :
    Reached s' (us ++ [t]) := by
  cases t with
  | word w => exact reached_stepWord h hs
  | lparen => cases hs; exact .group h
  | minus => cases hs; exact .unary h (by simp [grammar, unarySigns])
  | int n => cases hs; exact ⟨us, _, h, .int n, rfl⟩
  | float x => cases hs; exact ⟨us, _, h, .float x, rfl⟩
  | str x => cases hs; exact ⟨us, _, h, .str x, rfl⟩
  | _ => cases hs

theorem reached_close (h : grammar.Opens stack us) (he : Phrase .primary e ts)
    (hs : close stack e t = .ok s') : Reached s' (us ++ ts ++ [t]) := by
  have htokens {stack' : Stack} {r : Expr} (hr : precedence.reduce 0 stack e = (stack', r)) :=
    h.reduce_zero he.operand hr
  unfold close at hs
  rcases precedence.reduce_zero_cases stack e with
    ⟨stack', inner, hr⟩ | ⟨name, args, stack', last, hr⟩ | ⟨r, hr⟩
  · obtain ⟨us', ts', hopens', hinner, heq⟩ := htokens hr
    obtain ⟨us', hopens, rfl⟩ := hopens'.of_group
    rw [hr] at hs
    dsimp only at hs
    split at hs
    next ht =>
      cases hs
      refine ⟨us', _, hopens, .parentheses (phrase_disjunction hinner), ?_⟩
      rw [heq, ht]
      simp [grammar]
    next => cases hs
  · obtain ⟨us', ts', hopens, hlast, heq⟩ := htokens hr
    rw [hr] at hs
    dsimp only at hs
    split at hs
    next ht =>
      cases hs
      obtain ⟨us', written, hbelow, hname, rfl, hargs, rfl⟩ := hopens.of_call
      have hall : ∀ a ∈ written ++ [(last, ts')], Phrase .disjunction a.1 a.2 :=
        List.forall_mem_append.mpr ⟨fun a ha => phrase_disjunction (hargs a ha),
          List.forall_mem_singleton.mpr (phrase_disjunction hlast)⟩
      have hcall := Phrase.call hname hall
      rw [List.map_append, List.map_append] at hcall
      refine ⟨us', _, hbelow, hcall, ?_⟩
      rw [heq, ht]
      simp [grammar, Precedence.intercalate_concat, List.flatMap_map]
    next =>
      split at hs
      next ht =>
        cases hs
        rw [heq, ht]
        exact hopens.argument hlast
      next => cases hs
  · rw [hr] at hs
    cases hs

theorem reached_stepComplete (h : grammar.Opens stack us) (he : Phrase .primary e ts)
    (hs : stepComplete stack e t = .ok s') : Reached s' (us ++ ts ++ [t]) := by
  unfold stepComplete at hs
  split at hs
  next stack' hawait =>
    cases hs
    obtain ⟨op, hop, hawait⟩ := Option.bind_eq_some_iff.mp hawait
    exact h.await he.operand hop hawait
  next => exact reached_close h he hs

/-- **One step of the parser** reads one token. -/
theorem Reached.step (h : Reached s read) (hs : step s t = .ok s') : Reached s' (read ++ [t]) := by
  obtain ⟨stack, mode⟩ := s
  cases mode with
  | operand => exact reached_stepOperand h hs
  | firstArgument =>
    obtain ⟨hopens, name, below, hstack⟩ := h
    dsimp only at hstack
    subst hstack
    simp only [Filter.step] at hs
    split at hs
    next hcall =>
      cases hcall
      cases hs
      obtain ⟨us, written, hbelow, hname, hargs, -, rfl⟩ := hopens.of_call
      have hnone : written = [] := by simpa using hargs.symm
      subst hnone
      exact ⟨us, _, hbelow, phrase_call_nil hname, by simp [grammar]⟩
    next => exact reached_stepOperand hopens hs
  | name name =>
    obtain ⟨us, hopens, hname, rfl⟩ := h
    simp only [Filter.step] at hs
    split at hs
    next ht =>
      split at hs
      next hnative =>
        cases hs
        refine ⟨?_, name, stack, rfl⟩
        simpa [grammar, ht] using hopens.call_nil hnative
      next => cases hs
    next => exact reached_stepComplete hopens (.property hname) hs
  | complete e =>
    obtain ⟨us, ts, hopens, he, rfl⟩ := h
    exact reached_stepComplete hopens he hs

theorem reached_foldlM (h : Reached s read) (hs : ts.foldlM step s = .ok s') : Reached s' (read ++ ts) := by
  induction ts generalizing s read with
  | nil =>
    cases hs
    rwa [List.append_nil]
  | cons t ts ih =>
    rw [List.foldlM_cons] at hs
    obtain ⟨s₁, hstep, hrest⟩ := bind_eq_ok.mp hs
    have := ih (h.step hstep) hrest
    rwa [List.append_assoc, List.singleton_append] at this

theorem phrase_of_closeEnd (h : grammar.Opens stack us) (he : Phrase .primary e ts) {r : Expr}
    (hs : closeEnd stack e = .ok r) : Phrase .disjunction r (us ++ ts) := by
  unfold closeEnd at hs
  split at hs
  next e' hr =>
    cases hs
    obtain ⟨us', ts', hopens, hphrase, heq⟩ := h.reduce_zero he.operand hr
    rw [heq, hopens.of_empty]
    exact phrase_disjunction hphrase
  next => cases hs

theorem phrase_of_finish (h : Reached s read) (hs : finish s = .ok e) : Phrase .disjunction e read := by
  obtain ⟨stack, mode⟩ := s
  cases mode with
  | operand | firstArgument => cases hs
  | name name =>
    obtain ⟨us, hopens, hname, rfl⟩ := h
    exact phrase_of_closeEnd hopens (.property hname) hs
  | complete e =>
    obtain ⟨us, ts, hopens, he, rfl⟩ := h
    exact phrase_of_closeEnd hopens he hs

/-- **What the parser accepts is a sentence of the grammar.** -/
theorem phrase_of_parseTokens (h : parseTokens ts = .ok e) : Phrase .disjunction e ts := by
  obtain ⟨s, hread, hfinish⟩ := bind_eq_ok.mp h
  have hstart : Reached ⟨[], .operand⟩ [] := .empty
  exact phrase_of_finish (reached_foldlM hstart hread) hfinish

/-! ## Sentences are accepted -/

/-- Reading `ts` completes the operand `e`, but for operators in it that bind at `level` or tighter: they
may still be waiting for the end of the `last` operand. -/
def Reads (level : Nat) (e : Expr) (ts : List Token) (stack : Stack) : Prop :=
  ∃ (waiting : Stack) (last : Expr) (s : State), ts.foldlM step ⟨stack, .operand⟩ = .ok s ∧
    Completed (waiting ++ stack) last s ∧ precedence.Completes level waiting last e

theorem Reads.of_completed (hread : ts.foldlM step ⟨stack, .operand⟩ = .ok s) (h : Completed stack e s) :
    Reads level e ts stack :=
  ⟨[], e, s, hread, h, .refl precedence level e⟩

theorem Reads.mono {k : Nat} (h : Reads k e ts stack) (hk : level ≤ k) : Reads level e ts stack := by
  obtain ⟨waiting, last, s, hread, hcompleted, hcompletes⟩ := h
  exact ⟨waiting, last, s, hread, hcompleted, hcompletes.mono hk⟩

theorem foldlM_step_cons {s s' : State} (h : step s t = .ok s') :
    (t :: ts).foldlM step s = ts.foldlM step s' := by
  rw [List.foldlM_cons, h]
  rfl

theorem Reads.binary (hsign : t.op? = some op) (hparen : t ≠ .lparen)
    (hfloor : precedence.floor Category.unary.rank stack ≤ precedence.level op)
    (hleft : Reads (precedence.leftLevel op) left ls stack)
    (hright : Reads (precedence.level op + 1) right rs (.binary op left :: stack)) :
    Reads (precedence.level op) (.binary op left right) (ls ++ t :: rs) stack := by
  obtain ⟨waiting, last, s, hread, hcompleted, hcompletes⟩ := hleft
  obtain ⟨waiting', last', s', hread', hcompleted', hcompletes'⟩ := hright
  have hawait : precedence.await? op (waiting ++ stack) last = some (.binary op left :: stack) :=
    hcompletes.await hfloor (grammar.leftLevel_lt op)
  have hstep : step s t = .ok ⟨.binary op left :: stack, .operand⟩ := by
    rw [hcompleted.step_eq hparen, stepComplete, hsign, Option.bind_some, hawait]
  refine ⟨waiting' ++ [Frame.binary op left], last', s', ?_, ?_, hcompletes'.binary op left⟩
  · rw [List.foldlM_append, hread, ok_bind, foldlM_step_cons hstep, hread']
  · rwa [List.append_assoc, List.singleton_append]

theorem Reads.unary {op : UnaryOp} (hsign : (t, op) ∈ unarySigns)
    (h : Reads level e ts (.unary op :: stack)) : Reads level (.unary op e) (t :: ts) stack := by
  obtain ⟨waiting, last, s, hread, hcompleted, hcompletes⟩ := h
  have hstep : step ⟨stack, .operand⟩ t = .ok ⟨.unary op :: stack, .operand⟩ := by
    simp only [unarySigns, List.mem_cons, Prod.mk.injEq, List.not_mem_nil, or_false] at hsign
    rcases hsign with ⟨rfl, rfl⟩ | ⟨rfl, rfl⟩ <;> rfl
  refine ⟨waiting ++ [Frame.unary op], last, s, ?_, ?_, hcompletes.unary op⟩
  · rw [foldlM_step_cons hstep, hread]
  · rwa [List.append_assoc, List.singleton_append]

/-- In front of a token that is no operator, an operand is complete. -/
theorem Reads.close (h : Reads level e ts stack) (hop : t.op? = none) (hparen : t ≠ .lparen) :
    (ts ++ [t]).foldlM step ⟨stack, .operand⟩ = Filter.close stack e t := by
  obtain ⟨waiting, last, s, hread, hcompleted, hcompletes⟩ := h
  have hclose : Filter.close (waiting ++ stack) last t = Filter.close stack e t := by
    rw [Filter.close, Filter.close, hcompletes 0 (Nat.zero_le _)]
  have hstep : step s t = Filter.close stack e t := by
    rw [hcompleted.step_eq hparen, stepComplete, hop, Option.bind_none, hclose]
  rw [List.foldlM_append, hread, ok_bind, List.foldlM_cons, hstep]
  exact bind_pure _

theorem Reads.parentheses (h : Reads 1 e ts (.group :: stack)) :
    Reads level e (Token.lparen :: (ts ++ [Token.rparen])) stack := by
  have hopen : step ⟨stack, .operand⟩ .lparen = .ok ⟨.group :: stack, .operand⟩ := rfl
  refine .of_completed (s := ⟨stack, .complete e⟩) ?_ (.operand e)
  rw [foldlM_step_cons hopen, h.close rfl Token.noConfusion]
  rfl

/-- A phrase starts with a literal, a name, a sign or an opening parenthesis. -/
theorem Phrase.head (h : Phrase c e ts) : ∃ t tail, ts = t :: tail ∧ t ≠ .rparen := by
  induction h with
  | tighter _ _ ih => exact ih
  | binary _ _ _ ih =>
    obtain ⟨t, tail, rfl, ht⟩ := ih
    exact ⟨t, _, rfl, ht⟩
  | unary hsign =>
    refine ⟨_, _, rfl, ?_⟩
    simp only [unarySigns, List.mem_cons, Prod.mk.injEq, List.not_mem_nil, or_false] at hsign
    rcases hsign with ⟨rfl, -⟩ | ⟨rfl, -⟩ <;> decide
  | _ => exact ⟨_, _, rfl, Token.noConfusion⟩

theorem foldlM_arguments {args : List (Expr × List Token)} (hne : args ≠ [])
    (h : ∀ a ∈ args, ∀ done, Reads 1 a.1 a.2 (.call name done :: stack)) (done : List Expr) :
    ([Token.comma].intercalate (args.map (·.2)) ++ [Token.rparen] : List Token).foldlM step
        ⟨.call name done :: stack, .operand⟩ =
      .ok ⟨stack, .complete (.call name (done ++ args.map (·.1)))⟩ := by
  induction args generalizing done with
  | nil => exact absurd rfl hne
  | cons a args ih =>
    have harg := h a List.mem_cons_self done
    cases args with
    | nil =>
      rw [List.map_singleton, List.map_singleton, List.intercalate_singleton, harg.close rfl Token.noConfusion]
      rfl
    | cons b args =>
      have hrest := ih (List.cons_ne_nil b args) (fun a' h' => h a' (List.mem_cons_of_mem a h')) (done ++ [a.1])
      have hcomma : Filter.close (.call name done :: stack) a.1 .comma =
          .ok ⟨.call name (done ++ [a.1]) :: stack, .operand⟩ := rfl
      rw [List.map_cons, List.map_cons, List.map_cons, List.intercalate_cons_cons, List.append_assoc,
        List.foldlM_append, harg.close rfl Token.noConfusion, hcomma, ok_bind]
      simpa using hrest

/-- What is no end of an argument list starts an argument. -/
theorem foldlM_firstArgument (ht : t ≠ .rparen) :
    (t :: ts).foldlM step ⟨stack, .firstArgument⟩ = (t :: ts).foldlM step ⟨stack, .operand⟩ := by
  have hstep : step ⟨stack, .firstArgument⟩ t = step ⟨stack, .operand⟩ t := by
    simp only [step]
    split
    next => exact absurd rfl ht
    next => rfl
  rw [List.foldlM_cons, List.foldlM_cons, hstep]

theorem Reads.call {args : List (Expr × List Token)} (hname : Builtin.isNative name = true)
    (hhead : ∀ a ∈ args, ∃ t tail, a.2 = t :: tail ∧ t ≠ .rparen)
    (h : ∀ a ∈ args, ∀ done, Reads 1 a.1 a.2 (.call name done :: stack)) :
    Reads level (.call name (args.map (·.1)))
      (.word name :: .lparen :: ([Token.comma].intercalate (args.map (·.2)) ++ [Token.rparen])) stack := by
  have hword : step ⟨stack, .operand⟩ (.word name) = .ok ⟨stack, .name name⟩ :=
    stepWord_of_not_reserved (native_not_reserved hname)
  have hopen : step ⟨stack, .name name⟩ .lparen = .ok ⟨.call name [] :: stack, .firstArgument⟩ := by
    simp only [step, if_true, hname]
  refine .of_completed (s := ⟨stack, .complete (.call name (args.map (·.1)))⟩) ?_ (.operand _)
  rw [foldlM_step_cons hword, foldlM_step_cons hopen]
  cases args with
  | nil => rfl
  | cons a args =>
    obtain ⟨t, tail, hfirst, ht⟩ := hhead a List.mem_cons_self
    obtain ⟨rest, hrest⟩ : ∃ rest,
        [.comma].intercalate ((a :: args).map (·.2)) ++ [Token.rparen] = t :: rest := by
      cases args with
      | nil => exact ⟨_, by rw [List.map_singleton, hfirst, List.intercalate_singleton]; rfl⟩
      | cons b args => exact ⟨_, by rw [List.map_cons, List.map_cons, hfirst, List.intercalate_cons_cons]; rfl⟩
    have hall := foldlM_arguments (List.cons_ne_nil a args) h []
    rw [hrest] at hall ⊢
    rw [foldlM_firstArgument ht]
    exact hall

/-- **Every phrase is read as it was derived**: its tokens complete it, behind any operators that bind less
tightly. -/
theorem Phrase.reads (h : Phrase c e ts)
    (hfloor : precedence.floor Category.unary.rank stack ≤ c.rank) : Reads c.rank e ts stack := by
  -- the stack stays general: a right operand is read with its operator on top of it
  induction h generalizing stack with
  | tighter hrank _ ih => exact (ih (Nat.le_trans hfloor hrank)).mono hrank
  | @binary c sign op left right ls rs hsign _ _ ihl ihr =>
    obtain ⟨hlevel, hleftLevel, hnext⟩ := level_of_mem_signs hsign
    have hop := op_of_mem_signs hsign
    have hparen : sign ≠ .lparen := by
      rintro rfl
      cases hop
    have hbelow : precedence.floor Category.unary.rank stack ≤ c.left.rank := by
      rw [← hleftLevel]
      exact Nat.le_trans hfloor (hlevel ▸ precedence.level_le_leftLevel op)
    have hleft := ihl hbelow
    have hright : Reads c.next.rank right rs (.binary op left :: stack) := ihr (Nat.le_of_eq hnext)
    rw [← hleftLevel] at hleft
    rw [← hnext] at hright
    rw [← hlevel] at hfloor ⊢
    exact .binary hop hparen hfloor hleft hright
  | unary hsign _ ih => exact .unary hsign (ih (Nat.le_refl _))
  | int | float | str | true | false | null => exact .of_completed rfl (.operand _)
  | @property name hname =>
    have hword : stepWord stack name = .ok ⟨stack, .name name⟩ :=
      stepWord_of_not_reserved (by simpa [isReserved] using hname)
    exact .of_completed (foldlM_step_cons hword) (.property name)
  | @call name args hname hargs ih =>
    exact .call hname (fun a ha => (hargs a ha).head) fun a ha done => ih a ha (Nat.zero_le _)
  | parentheses _ ih => exact .parentheses (ih (Nat.zero_le _))

theorem Phrase.parseTokens (h : Phrase .disjunction e ts) : parseTokens ts = .ok e := by
  have hreads : Reads Category.disjunction.rank e ts [] := h.reads (Nat.zero_le _)
  obtain ⟨waiting, last, s, hread, hcompleted, hcompletes⟩ := hreads
  have hreduce : precedence.reduce 0 (waiting ++ []) last = ([], e) := hcompletes 0 (Nat.zero_le _) []
  rw [Filter.parseTokens, hread, ok_bind, hcompleted.finish_eq, closeEnd, hreduce]

/-! ## The parser and the grammar -/

/-- **The parser accepts the grammar**: a text is read as `e` if its tokens, all of them, are a sentence of
the grammar with `e` as its tree, and it is refused if they are not a sentence. -/
theorem parse_eq_ok_iff (text : String) (e : Expr) :
    parse text = .ok e ↔ ∃ tokens, tokenize text = .ok tokens ∧ Phrase .disjunction e tokens := by
  rw [parse, bind_eq_ok]
  constructor
  · rintro ⟨tokens, htokens, hparse⟩
    exact ⟨tokens, htokens, phrase_of_parseTokens hparse⟩
  · rintro ⟨tokens, htokens, hphrase⟩
    exact ⟨tokens, htokens, hphrase.parseTokens⟩

end RowQuery.Filter
