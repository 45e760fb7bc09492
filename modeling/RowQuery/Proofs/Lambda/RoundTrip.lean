import RowQuery.Proofs.Lambda.Spelling

/-!
# Lambdas that are written and parsed again

`Expr.tokens` writes an expression with parentheses only where it stands in the place of a tighter one.
Every lambda over names and literals other than floats can be written, and however it is written, it parses
as itself (`parse_spelt`).
-/

namespace RowQuery.Lambda

open Text (isWordChar isWordStart)
open Number (isDigit)

/-- Expressions without floats, whose integers are not negative and whose names are identifiers. -/
inductive Expr.Plain (params : List String) : Expr → Prop where
  | int {n : Int64} (h : 0 ≤ n.toInt) : Plain params (.int n)
  | str (s : String) : Plain params (.str s)
  | bool (b : Bool) : Plain params (.bool b)
  | null : Plain params .null
  | param {name : String} (h : name ∈ params) : Plain params (.param name)
  | ident {name : String} (h : name ∉ params) (hname : Identifier name) : Plain params (.ident name)
  | property {object : Expr} {name : String} (hname : Identifier name) (h : Plain params object) :
      Plain params (.property object name)
  | call {name : String} {args : List Expr} (hname : Identifier name) (h : ∀ a ∈ args, Plain params a) :
      Plain params (.call name args)
  | unary {e : Expr} (op : UnaryOp) (h : Plain params e) : Plain params (.unary op e)
  | binary {left right : Expr} (op : BinaryOp) (hleft : Plain params left) (hright : Plain params right) :
      Plain params (.binary op left right)

/-! ## Writing -/

def unarySign : UnaryOp → Token
  | .not => .bang
  | .negate => .minus

/-- Sign of a binary operator. -/
def binarySign : BinaryOp → Token
  | .comparison op => .comparison op
  | .connective op => .connective op .symbol
  | .arithmetic .add => .plus
  | .arithmetic .subtract => .minus
  | .arithmetic .multiply => .star
  | .arithmetic .divide => .slash
  | .arithmetic .modulo => .percent

/-- Categories of an operation, of its left operand and of its right one. -/
def categories : BinaryOp → Category × Category × Category
  | .connective .or => (.disjunction, .disjunction, .conjunction)
  | .connective .and => (.conjunction, .conjunction, .comparison)
  | .comparison _ => (.comparison, .sum, .sum)
  | .arithmetic .add | .arithmetic .subtract => (.sum, .sum, .product)
  | .arithmetic .multiply | .arithmetic .divide | .arithmetic .modulo => (.product, .product, .unary)

/-- The tightest category of an expression. -/
def Expr.category : Expr → Category
  | .binary op _ _ => (categories op).1
  | .unary _ _ => .unary
  | .property _ _ => .member
  | .float _ | .int _ | .str _ | .bool _ | .null | .param _ | .ident _ | .call _ _ => .primary

/-- Tokens of an expression of category `own` in a place of category `place`. -/
def enclosed (place own : Category) (ts : List Token) : List Token :=
  if place.rank ≤ own.rank then ts else .lparen :: (ts ++ [.rparen])

mutual

def Expr.tokens : Expr → List Token
  | .float x => [.float x]
  | .int n => [.int n]
  | .str s => [.str s]
  | .bool b => [.bool b]
  | .null => [.null]
  | .param name | .ident name => [.ident name]
  | .property object name => enclosed .member object.category object.tokens ++ [.dot, .ident name]
  | .call name args => .ident name :: .lparen :: (separated (Expr.tokensAll args) ++ [.rparen])
  | .unary op e => unarySign op :: enclosed .unary e.category e.tokens
  | .binary op left right =>
    enclosed (categories op).2.1 left.category left.tokens ++
      binarySign op :: enclosed (categories op).2.2 right.category right.tokens

def Expr.tokensAll : List Expr → List (List Token)
  | [] => []
  | e :: rest => e.tokens :: Expr.tokensAll rest

end

/-- Tokens of a lambda, with parentheses around the parameters. -/
def lambdaTokens (params : List String) (body : Expr) : List Token :=
  .lparen :: (separated (params.map fun name => [.ident name]) ++ [.rparen]) ++ .arrow :: body.tokens

/-- A difference on the right of another one needs its parentheses, one on the left does not. -/
example : Expr.tokens (.binary (.arithmetic .subtract)
      (.binary (.arithmetic .subtract) (.int 1) (.int 2)) (.binary (.arithmetic .subtract) (.int 3) (.int 4))) =
    [.int 1, .minus, .int 2, .minus, .lparen, .int 3, .minus, .int 4, .rparen] := by
  rfl

variable {params : List String} {c place : Category} {e body : Expr} {ts : List Token} {t : Token}

theorem tokensAll_eq_map (args : List Expr) : Expr.tokensAll args = args.map Expr.tokens := by
  induction args with
  | nil => rfl
  | cons e rest ih => rw [Expr.tokensAll, ih]; rfl

theorem category_rank_pos (c : Category) : Category.disjunction.rank ≤ c.rank := by
  cases c <;> decide

theorem Written.enclosed (h : Written params c e ts) : Written params place e (enclosed place c ts) := by
  rw [Lambda.enclosed]
  split
  next hrank => exact .tighter hrank h
  next =>
    have hprimary : place.rank ≤ Category.primary.rank := by cases place <;> decide
    exact .tighter hprimary (.parentheses (.tighter (category_rank_pos c) h))

/-- Tokens of an expression are a way to write it. -/
theorem Expr.Plain.written (h : e.Plain params) : Written params e.category e e.tokens := by
  induction h with
  | int h => exact .int _
  | str s => exact .str s
  | bool b => exact .bool b
  | null => exact .null
  | param h => exact .param h
  | ident h hname => exact .ident h
  | property hname h ih => exact .property _ ih.enclosed
  | @call name args hname h ih =>
    have hargs : ∀ a ∈ args.map fun a => (a, a.tokens), Written params .disjunction a.1 a.2 := by
      simp only [List.forall_mem_map]
      exact fun a ha => .tighter (category_rank_pos _) (ih a ha)
    have hcall := Written.call name hargs
    simp only [List.map_map, Function.comp_def, List.map_id', ← tokensAll_eq_map] at hcall
    exact hcall
  | unary op h ih =>
    cases op with
    | not | negate => exact .unary (by simp [unarySign]) ih.enclosed
  | binary op hleft hright ihl ihr =>
    rcases op with op | op | op
    · exact .comparison op ihl.enclosed ihr.enclosed
    · cases op with
      | add | subtract => exact .sum (by simp [binarySign]) ihl.enclosed ihr.enclosed
      | multiply | divide | modulo => exact .product (by simp [binarySign]) ihl.enclosed ihr.enclosed
    · cases op with
      | and => exact .and .symbol ihl.enclosed ihr.enclosed
      | or => exact .or .symbol ihl.enclosed ihr.enclosed

theorem written_lambdaTokens (hne : params ≠ []) (h : body.Plain params) :
    WrittenLambda params body (lambdaTokens params body) := by
  have hbody : Written params .disjunction body body.tokens := .tighter (category_rank_pos _) h.written
  have hlambda := WrittenLambda.intro false 0 (.list hne) hbody
  simp only [Bool.false_eq_true, if_false, List.nil_append, List.replicate_zero, List.append_nil] at hlambda
  exact hlambda

/-! ## Spelling -/

/-- Every token of some tokens has a text. -/
def Spellable (ts : List Token) : Prop :=
  ∀ t ∈ ts, ∃ text, t.SpeltAs text

theorem Spellable.append {us : List Token} (h : Spellable ts) (h' : Spellable us) : Spellable (ts ++ us) :=
  List.forall_mem_append.mpr ⟨h, h'⟩

theorem Spellable.cons (ht : ∃ text, t.SpeltAs text) (h : Spellable ts) : Spellable (t :: ts) :=
  List.forall_mem_cons.mpr ⟨ht, h⟩

theorem spellable_nil : Spellable [] :=
  List.forall_mem_nil _

theorem spelt_fixed {text : String} (h : t.fixedText? = some text) : ∃ text, t.SpeltAs text :=
  ⟨_, .fixed h⟩

theorem spelt_ident {name : String} (h : Identifier name) : ∃ text, (Token.ident name).SpeltAs text :=
  ⟨_, .ident h⟩

theorem spelt_int {n : Int64} (h : 0 ≤ n.toInt) : ∃ text, (Token.int n).SpeltAs text := by
  refine ⟨Nat.toDigits 10 n.toInt.natAbs, .int Nat.toDigits_ne_nil ?_ ?_⟩
  · exact fun _ => Number.isDigit_of_mem_toDigits
  · rw [Number.digitsValue_toDigits, Int.natAbs_of_nonneg h]

theorem exists_quotedText (cs : List Char) : ∃ text, QuotedText '\x22' cs text := by
  induction cs with
  | nil => exact ⟨[], .nil⟩
  | cons c cs ih =>
    obtain ⟨text, htext⟩ := ih
    by_cases hquote : c = '\x22'
    · subst hquote
      exact ⟨_, .escape (by decide : ('\x22', '\x22') ∈ escapes) htext⟩
    · by_cases hslash : c = '\\'
      · subst hslash
        exact ⟨_, .escape (by decide : ('\\', '\\') ∈ escapes) htext⟩
      · exact ⟨_, .plain hquote hslash htext⟩

theorem spelt_str (s : String) : ∃ text, (Token.str s).SpeltAs text := by
  obtain ⟨text, htext⟩ := exists_quotedText s.toList
  exact ⟨_, .str (.inl rfl) htext⟩

theorem Spellable.enclosed {own : Category} (h : Spellable ts) : Spellable (enclosed place own ts) := by
  rw [Lambda.enclosed]
  split
  · exact h
  · exact .cons (spelt_fixed rfl) (h.append (.cons (spelt_fixed rfl) spellable_nil))

theorem spellable_separated {lists : List (List Token)} (h : ∀ ts ∈ lists, Spellable ts) :
    Spellable (separated lists) := by
  fun_induction separated lists with
  | case1 => exact spellable_nil
  | case2 ts => exact h ts List.mem_cons_self
  | case3 ts rest _ ih =>
    obtain ⟨hts, hrest⟩ := List.forall_mem_cons.mp h
    exact hts.append (.cons (spelt_fixed rfl) (ih hrest))

theorem Expr.Plain.spellable (hparams : ∀ name ∈ params, Identifier name) (h : e.Plain params) :
    Spellable e.tokens := by
  induction h with
  | int h => exact .cons (spelt_int h) spellable_nil
  | str s => exact .cons (spelt_str s) spellable_nil
  | bool b => cases b <;> exact .cons (spelt_fixed rfl) spellable_nil
  | null => exact .cons (spelt_fixed rfl) spellable_nil
  | param h => exact .cons (spelt_ident (hparams _ h)) spellable_nil
  | ident h hname => exact .cons (spelt_ident hname) spellable_nil
  | property hname h ih =>
    exact ih.enclosed.append (.cons (spelt_fixed rfl) (.cons (spelt_ident hname) spellable_nil))
  | call hname h ih =>
    refine .cons (spelt_ident hname) (.cons (spelt_fixed rfl) (.append ?_ (.cons (spelt_fixed rfl) spellable_nil)))
    rw [tokensAll_eq_map]
    exact spellable_separated (List.forall_mem_map.mpr ih)
  | unary op h ih => cases op <;> exact .cons (spelt_fixed rfl) ih.enclosed
  | binary op hleft hright ihl ihr =>
    refine ihl.enclosed.append (.cons ?_ ihr.enclosed)
    rcases op with op | op | op <;> cases op <;> exact spelt_fixed rfl

theorem spellable_lambdaTokens (hparams : ∀ name ∈ params, Identifier name) (h : body.Plain params) :
    Spellable (lambdaTokens params body) := by
  have hnames : Spellable (separated (params.map fun name => [.ident name])) := by
    refine spellable_separated (List.forall_mem_map.mpr fun name hname => ?_)
    exact .cons (spelt_ident (hparams name hname)) spellable_nil
  rw [lambdaTokens]
  refine .append (.cons (spelt_fixed rfl) (hnames.append (.cons (spelt_fixed rfl) spellable_nil))) ?_
  exact .cons (spelt_fixed rfl) (h.spellable hparams)

/-- A blank ends every token. -/
theorem endsBefore_blank (t : Token) (cs : List Char) : t.EndsBefore (' ' :: cs) := by
  have hword : ∀ c ∈ (' ' :: cs).head?, isWordChar c = false := by rintro c ⟨⟩; decide
  have hdigit : (∀ c ∈ (' ' :: cs).head?, isDigit c = false) ∧
      ∀ d rest, ' ' :: cs = '.' :: d :: rest → isDigit d = false :=
    ⟨by rintro c ⟨⟩; decide, fun d rest h => absurd (List.cons.inj h).1 (by decide)⟩
  have hequals : (' ' :: cs).head? ≠ some '=' := by simp
  cases t with
  | ident | bool | null | returnWord => exact hword
  | int => exact hdigit
  | bang => exact hequals
  | comparison op => cases op <;> first | exact hequals | trivial
  | connective op spelling => cases spelling <;> first | exact hword | trivial
  | _ => trivial

/-- Tokens with a blank behind each of them. -/
theorem Spellable.exists_speltOut (h : Spellable ts) : ∃ cs, SpeltOut ts cs := by
  induction ts with
  | nil => exact ⟨[], .nil⟩
  | cons t ts ih =>
    obtain ⟨⟨text, htext⟩, hts⟩ := List.forall_mem_cons.mp h
    obtain ⟨cs, hcs⟩ := ih hts
    exact ⟨text ++ ' ' :: cs, .token htext (endsBefore_blank t cs) (.blank rfl hcs)⟩

/-! ## Round trip -/

/-- **Every lambda can be written, and parses as itself**, however it is written: with more parentheses
than it needs or not, with either spelling of the connectives, with any blanks between its tokens, and
perhaps with a `return` and semicolons. -/
theorem parse_spelt (hne : params ≠ []) (hnodup : params.Nodup) (hparams : ∀ name ∈ params, Identifier name)
    (hbody : body.Plain params) :
    (WrittenLambda params body (lambdaTokens params body) ∧
      ∃ source : String, SpeltOut (lambdaTokens params body) source.toList) ∧
    ∀ (tokens : List Token) (source : String), WrittenLambda params body tokens →
      SpeltOut tokens source.toList → ∃ f, parse source = .ok f ∧ f.params = params ∧ f.body = body := by
  refine ⟨⟨written_lambdaTokens hne hbody, ?_⟩, fun tokens source hwritten hspelt => ?_⟩
  · obtain ⟨cs, hcs⟩ := (spellable_lambdaTokens hparams hbody).exists_speltOut
    exact ⟨String.ofList cs, by rwa [String.toList_ofList]⟩
  · exact parse_of_lexes tokens hspelt.lexes (hwritten.parseTokens hnodup)

/-- Two parameters, and operators of every category. -/
theorem parse_spelt_sample :
    let params := ["r", "n"]
    let body : Expr := .binary (.connective .or)
      (.binary (.comparison .less)
        (.binary (.arithmetic .multiply)
          (.unary .negate (.binary (.arithmetic .add) (.property (.param "r") "age") (.int 2)))
          (.call "pow" [.param "n", .int 2]))
        (.ident "limit"))
      (.unary .not (.bool true))
    params ≠ [] ∧ params.Nodup ∧ (∀ name ∈ params, Identifier name) ∧ body.Plain params ∧
      (WrittenLambda params body (lambdaTokens params body) ∧
        ∃ source : String, SpeltOut (lambdaTokens params body) source.toList) ∧
      ∀ (tokens : List Token) (source : String), WrittenLambda params body tokens →
        SpeltOut tokens source.toList → ∃ f, parse source = .ok f ∧ f.params = params ∧ f.body = body := by
  intro params body
  have hidentifier {c : Char} {rest : List Char} (hc : isWordStart c = true) (hrest : rest.all isWordChar = true)
      (hkeyword : String.ofList (c :: rest) ∉ keywords) : Identifier (String.ofList (c :: rest)) :=
    ⟨by rw [String.toList_ofList]; exact isName_cons hc hrest, hkeyword⟩
  have hr : Identifier "r" := hidentifier (by decide) (by decide) (by decide)
  have hn : Identifier "n" := hidentifier (by decide) (by decide) (by decide)
  have hage : Identifier "age" := hidentifier (by decide) (by decide) (by decide)
  have hpow : Identifier "pow" := hidentifier (by decide) (by decide) (by decide)
  have hlimit : Identifier "limit" := hidentifier (by decide) (by decide) (by decide)
  have hne : params ≠ [] := List.cons_ne_nil _ _
  have hnodup : params.Nodup := by decide
  have hparams : ∀ name ∈ params, Identifier name := by
    simp only [params, List.forall_mem_cons]
    exact ⟨hr, hn, List.forall_mem_nil _⟩
  have hpair : ∀ a ∈ [Expr.param "n", Expr.int 2], a.Plain params := by
    simp only [List.forall_mem_cons]
    exact ⟨.param (by decide), .int (by decide), List.forall_mem_nil _⟩
  have hbody : body.Plain params :=
    .binary _
      (.binary _
        (.binary _
          (.unary _ (.binary _ (.property hage (.param (by decide))) (.int (by decide))))
          (.call hpow hpair))
        (.ident (by decide) hlimit))
      (.unary _ (.bool true))
  exact ⟨hne, hnodup, hparams, hbody, parse_spelt hne hnodup hparams hbody⟩

end RowQuery.Lambda
