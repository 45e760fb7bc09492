import RowQuery.Proofs.Lambda.Reading
import RowQuery.PushDown.Compile
import RowQuery.PushDown.Eligibility

/-!
# Expressions that the store can be asked

`Carries f stack mode ts ws r` says that the expression reader, with `stack` open and `mode` next, makes
`r` of the tokens `ts`, that it does so without anything that keeps `f` local, and that a filter spells
the same with the tokens `ws`. Every run of the reader over tokens to which nothing objects is one of
these (`carries_of_reading`).
-/

namespace RowQuery.PushDown

open Lambda

/-! ## Tokens of the filter -/

/-- Filter token for a literal. An infinite float is written as a word. -/
def literalToken : Lambda.Token → Filter.Token
  | .float x => if Number.isFinite x then .float x else .word (Number.Layout.tagged.write x)
  | .int n => .int n
  | .str s => .str s
  | .bool b => .word (if b then "true" else "false")
  | _ => .word "null"

def arithmeticToken : Arithmetic → Filter.Token
  | .add => .plus
  | .subtract => .minus
  | .multiply => .star
  | .divide => .slash
  | .modulo => .percent

def binaryToken : BinaryOp → Filter.Token
  | .comparison op => .word (relation op).word
  | .arithmetic op => arithmeticToken op
  | .connective op => .word (Filter.connectiveWord op)

def unaryToken : UnaryOp → Filter.Token
  | .not => .word "not"
  | .negate => .minus

/-! ## Runs without objections -/

inductive Carries (f : Lambda) :
    Stack → Mode → List Lambda.Token → List Filter.Token → Expr → Prop where
  | literal {stack ts ws r t lit} (ht : t.literal? = some lit)
      (h : Carries f stack (.complete lit) ts ws r) :
      Carries f stack .operand (t :: ts) (literalToken t :: ws) r
  | property {stack ts ws r p x} (hp : f.binds p = true) (hx : Filter.isReserved x = false)
      (h : Carries f stack (.complete (.property (.param p) x)) ts ws r) :
      Carries f stack .operand (.ident p :: .dot :: .ident x :: ts) (.word x :: ws) r
  | constant {stack ts ws r name} (hn : f.binds name = false)
      (hx : Filter.isReserved name = false) (hts : ts.head? ≠ some .lparen)
      (h : Carries f stack (.complete (.ident name)) ts ws r) :
      Carries f stack .operand (.ident name :: ts) (.word name :: ws) r
  | call {stack ts ws r name} (hn : f.binds name = false) (hlocal : Builtin.isLocal name = false)
      (hnative : Builtin.isNative name = true)
      (h : Carries f (.call name [] :: stack) .argument ts ws r) :
      Carries f stack .operand (.ident name :: .lparen :: ts) (.word name :: .lparen :: ws) r
  | group {stack ts ws r} (h : Carries f (.group :: stack) .operand ts ws r) :
      Carries f stack .operand (.lparen :: ts) (.lparen :: ws) r
  | unary {stack ts ws r t op} (ht : t.unaryOp? = some op)
      (h : Carries f (.unary op :: stack) .operand ts ws r) :
      Carries f stack .operand (t :: ts) (unaryToken op :: ws) r
  /-- The end of an argument list that no argument precedes, or a comma. -/
  | noArgument {stack ts ws r name args}
      (h : Carries f stack (.complete (.call name args)) ts ws r) :
      Carries f (.call name args :: stack) .argument (.rparen :: ts) (.rparen :: ws) r
  | argument {stack ts ws r} (h : Carries f stack .operand ts ws r) :
      Carries f stack .argument ts ws r
  | binary {stack stack' ts ws r t op e} (ht : t.binaryOp? = some op)
      (hs : precedence.await? op stack e = some stack')
      (h : Carries f stack' .operand ts ws r) :
      Carries f stack (.complete e) (t :: ts) (binaryToken op :: ws) r
  | closeGroup {stack stack' ts ws r e inner}
      (hs : precedence.reduce 0 stack e = (.group :: stack', inner))
      (h : Carries f stack' (.complete inner) ts ws r) :
      Carries f stack (.complete e) (.rparen :: ts) (.rparen :: ws) r
  | closeCall {stack stack' ts ws r e name args last}
      (hs : precedence.reduce 0 stack e = (.call name args :: stack', last))
      (h : Carries f stack' (.complete (.call name (args ++ [last]))) ts ws r) :
      Carries f stack (.complete e) (.rparen :: ts) (.rparen :: ws) r
  | nextArgument {stack stack' ts ws r e name args last}
      (hs : precedence.reduce 0 stack e = (.call name args :: stack', last))
      (h : Carries f (.call name (args ++ [last]) :: stack') .argument ts ws r) :
      Carries f stack (.complete e) (.comma :: ts) (.comma :: ws) r
  | finish {stack e r} (hs : precedence.reduce 0 stack e = ([], r)) :
      Carries f stack (.complete e) [] [] r

/-! ## What an absent objection says -/

variable {f : Lambda} {stack : Stack} {mode : Mode} {ts rest before : List Lambda.Token}
  {t : Lambda.Token} {name : String} {e r : Expr}

theorem objectionFrom_cons (h : objectionFrom? f before (t :: ts) = none) :
    objection? f before t ts.head? = none ∧ objectionFrom? f (t :: before) ts = none := by
  rw [objectionFrom?] at h
  split at h
  next => cases h
  next ho => exact ⟨ho, h⟩

theorem objection_call (h : objection? f before (.ident name) (some .lparen) = none) :
    Builtin.isLocal name = false ∧ Builtin.isNative name = true := by
  simp only [objection?, true_and] at h
  split at h
  next => cases h
  next hlocal =>
    split at h
    next => cases h
    next hnative => exact ⟨by simpa using hlocal, by simpa using hnative⟩

/-- A parameter that is no property stands in front of a dot. -/
theorem objection_param {next : Option Lambda.Token} (hb : before.head? ≠ some .dot)
    (hn : f.binds name = true) (h : objection? f before (.ident name) next = none) :
    next = some .dot := by
  simp only [objection?, hn, if_true, if_neg hb] at h
  split at h
  next => cases h
  next =>
    split at h
    next => cases h
    next =>
      split at h
      next hdot => exact hdot
      next => cases h

theorem objection_constant {next : Option Lambda.Token} (hb : before.head? ≠ some .dot)
    (hn : f.binds name = false) (h : objection? f before (.ident name) next = none) :
    Filter.isReserved name = false := by
  simp only [objection?, hn, Bool.false_eq_true, if_false, if_neg hb] at h
  split at h
  next => cases h
  next =>
    split at h
    next => cases h
    next =>
      split at h
      next => cases h
      next hx => simpa using hx

theorem objection_dot {next : Option Lambda.Token} (h : objection? f before .dot next = none) :
    endsInParam f before = true ∧ Filter.isReserved (Lambda.Token.propertyName next) = false := by
  simp only [objection?] at h
  split at h
  next => cases h
  next hparam =>
    split at h
    next => cases h
    next hx => exact ⟨by simpa using hparam, by simpa using hx⟩

/-! ## From the reader -/

/-- What the tokens in front of a mode end in. -/
def Ready (f : Lambda) (before : List Lambda.Token) : Mode → Prop
  | .operand | .argument => before.head? ≠ some .dot
  | .complete _ => endsInParam f before = false
  | _ => False

theorem endsInParam_literal {lit : Expr} (ht : t.literal? = some lit) :
    endsInParam f (t :: before) = false := by
  have : isParam f t = false := by cases t <;> simp_all [Token.literal?, isParam]
  simp [endsInParam, this]

/-- **A run of the reader over tokens to which nothing objects.** -/
theorem carries_of_reading (h : Reading f.params rest r stack mode ts) (hb : Ready f before mode)
    (ho : objectionFrom? f before (ts ++ rest) = none) : ∃ ws, Carries f stack mode ts ws r := by
  induction h generalizing before with
  | literal ht h ih =>
    obtain ⟨ws, hws⟩ := ih (endsInParam_literal ht) (objectionFrom_cons ho).2
    exact ⟨_, .literal ht hws⟩
  | @name stack name ts hdot hparen h ih =>
    obtain ⟨hname, hts⟩ := objectionFrom_cons ho
    cases hn : f.binds name with
    | true => exact absurd (objection_param hb hn hname) hdot
    | false =>
      have hident : resolve f.params name = .ident name := by
        rw [resolve, if_neg (by simpa [Lambda.binds] using hn)]
      rw [hident] at ih
      obtain ⟨ws, hws⟩ := ih (by simp [Ready, endsInParam, isParam, hn]) hts
      have hhead : ts.head? ≠ some .lparen := by
        cases ts with
        | nil => simp
        | cons t ts => exact hparen
      exact ⟨_, .constant hn (objection_constant hb hn hname) hhead hws⟩
  | @nameProperty stack name x ts h ih =>
    obtain ⟨hname, hts⟩ := objectionFrom_cons ho
    obtain ⟨hdot, hts⟩ := objectionFrom_cons hts
    obtain ⟨hends, hx⟩ := objection_dot hdot
    have hn : f.binds name = true := by simp_all [endsInParam, isParam]
    have hparam : resolve f.params name = .param name := by rw [resolve, if_pos (by exact hn)]
    rw [hparam] at ih
    obtain ⟨ws, hws⟩ := ih (by simp [Ready, endsInParam]) (objectionFrom_cons hts).2
    exact ⟨_, .property hn hx hws⟩
  | @call stack name ts h ih =>
    obtain ⟨hname, hts⟩ := objectionFrom_cons ho
    obtain ⟨hlocal, hnative⟩ := objection_call hname
    have hn : f.binds name = false := by
      by_contra hn
      exact absurd (objection_param hb (by simpa using hn) hname) (by simp)
    obtain ⟨ws, hws⟩ := ih (by simp [Ready]) (objectionFrom_cons hts).2
    exact ⟨_, .call hn hlocal hnative hws⟩
  | group h ih =>
    obtain ⟨ws, hws⟩ := ih (by simp [Ready]) (objectionFrom_cons ho).2
    exact ⟨_, .group hws⟩
  | unary ht h ih =>
    obtain ⟨ws, hws⟩ := ih (by rintro ⟨⟩; cases ht) (objectionFrom_cons ho).2
    exact ⟨_, .unary ht hws⟩
  | noArgument h ih =>
    obtain ⟨ws, hws⟩ := ih (by simp [Ready, endsInParam, isParam]) (objectionFrom_cons ho).2
    exact ⟨_, .noArgument hws⟩
  | argument h ih =>
    obtain ⟨ws, hws⟩ := ih hb ho
    exact ⟨_, .argument hws⟩
  | property h ih =>
    have hends := (objection_dot (objectionFrom_cons ho).1).1
    rw [hb] at hends
    cases hends
  | binary ht hs h ih =>
    obtain ⟨ws, hws⟩ := ih (by rintro ⟨⟩; cases ht) (objectionFrom_cons ho).2
    exact ⟨_, .binary ht hs hws⟩
  | closeGroup hs h ih =>
    obtain ⟨ws, hws⟩ := ih (by simp [Ready, endsInParam, isParam]) (objectionFrom_cons ho).2
    exact ⟨_, .closeGroup hs hws⟩
  | closeCall hs h ih =>
    obtain ⟨ws, hws⟩ := ih (by simp [Ready, endsInParam, isParam]) (objectionFrom_cons ho).2
    exact ⟨_, .closeCall hs hws⟩
  | nextArgument hs h ih =>
    obtain ⟨ws, hws⟩ := ih (by simp [Ready]) (objectionFrom_cons ho).2
    exact ⟨_, .nextArgument hs hws⟩
  | finish hs => exact ⟨[], .finish hs⟩

end RowQuery.PushDown
