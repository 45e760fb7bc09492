import RowQuery.Proofs.Filter.Grammar
import RowQuery.Proofs.PushDown.Carried

/-!
# The filter that a predicate becomes

`image` is the filter with the shape of an expression: a property of the parameter becomes a property of
the record. The filter parser and the expression reader make the same steps over the tokens that
`Carries` relates, so that the filter parser builds the image of what the reader built
(`Carries.runFrom`). The one thing that they do not agree on is a comma in front of a closing
parenthesis, which the filter parser refuses.
-/

namespace RowQuery.PushDown

open Lambda

/-! ## Images -/

def imageOp : BinaryOp → Filter.Op
  | .comparison op => .relation (relation op)
  | .arithmetic op => .arithmetic op
  | .connective op => .connective op

mutual

/-- Filter for an expression. The word that stands for an infinite float names a property. -/
def image : Lambda.Expr → Filter.Expr
  | .float x =>
    if Number.isFinite x then .literal (.float x) else .property (Number.Layout.tagged.write x)
  | .int n => .literal (.int n)
  | .str s => .literal (.str s)
  | .bool b => .literal (.bool b)
  | .null => .literal .null
  | .param name | .ident name | .property _ name => .property name
  | .call name args => .call name (imageAll args)
  | .unary op e => .unary op (image e)
  | .binary op left right => .binary (imageOp op) (image left) (image right)

def imageAll : List Lambda.Expr → List Filter.Expr
  | [] => []
  | e :: rest => image e :: imageAll rest

end

theorem imageAll_eq_map (args : List Lambda.Expr) : imageAll args = args.map image := by
  induction args with
  | nil => rfl
  | cons e rest ih => rw [imageAll, ih]; rfl

/-- Operators of expressions and their images bind alike. -/
def imageMorphism : Precedence.Morphism Lambda.precedence Filter.precedence where
  expr := image
  op := imageOp
  unary _ _ := rfl
  binary _ _ _ := rfl
  level op := by
    rcases op with op | op | op
    · rfl
    · rfl
    · rfl
  chains op := by
    rcases op with op | op | op
    · rfl
    · rfl
    · rfl

/-! ## Trailing commas -/

/-- Whether a closing parenthesis stands directly behind a comma, where the tokens follow a comma or
do not. -/
def trailingCommaFrom (afterComma : Bool) : List Lambda.Token → Bool
  | [] => false
  | t :: rest => (afterComma && t = .rparen) || trailingCommaFrom (t = .comma) rest

/-- Whether a closing parenthesis stands directly behind a comma. -/
def hasTrailingComma (ts : List Lambda.Token) : Bool :=
  trailingCommaFrom false ts

theorem trailingCommaFrom_of_head {ts : List Lambda.Token} (h : ts.head? ≠ some .rparen)
    (afterComma : Bool) : trailingCommaFrom afterComma ts = hasTrailingComma ts := by
  cases ts with
  | nil => rfl
  | cons t rest =>
    have ht : t ≠ .rparen := by rintro rfl; exact h rfl
    simp [hasTrailingComma, trailingCommaFrom, ht]

theorem trailingCommaFrom_cons {t : Lambda.Token} {ts : List Lambda.Token} (h : t ≠ .comma) :
    trailingCommaFrom false (t :: ts) = trailingCommaFrom false ts := by
  simp [trailingCommaFrom, h]

/-- Tokens that do not close anything make no comma a trailing one. -/
theorem trailingCommaFrom_append {ts behind : List Lambda.Token}
    (h : ∀ t ∈ behind, t ≠ .rparen) (afterComma : Bool) :
    trailingCommaFrom afterComma (ts ++ behind) = trailingCommaFrom afterComma ts := by
  have hnone : ∀ afterComma, trailingCommaFrom afterComma behind = false := by
    induction behind with
    | nil => intro _; rfl
    | cons t rest ih =>
      intro afterComma
      simp [trailingCommaFrom, h t List.mem_cons_self,
        ih fun t ht => h t (List.mem_cons_of_mem _ ht)]
  induction ts generalizing afterComma with
  | nil => exact hnone afterComma
  | cons t rest ih => simp [trailingCommaFrom, ih]

/-! ## Runs of the filter parser -/

variable {f : Lambda} {stack : Stack} {mode : Mode} {ts : List Lambda.Token}
  {ws : List Filter.Token} {w : Filter.Token} {r e : Lambda.Expr}

/-- The filter parser on the tokens `ws`, from the state `s` on. -/
def runFrom (s : Filter.State) (ws : List Filter.Token) : Except Filter.ParseError Filter.Expr := do
  Filter.finish (← ws.foldlM Filter.step s)

theorem runFrom_cons {s s' : Filter.State} (h : Filter.step s w = .ok s') :
    runFrom s (w :: ws) = runFrom s' ws := by
  rw [runFrom, List.foldlM_cons, h]
  rfl

theorem runFrom_cons_error {s : Filter.State} {err : Filter.ParseError}
    (h : Filter.step s w = .error err) : runFrom s (w :: ws) = .error err := by
  rw [runFrom, List.foldlM_cons, h]
  rfl

/-- A name is a property unless a parenthesis follows. -/
theorem runFrom_name {stack : Filter.Stack} {name : String} (h : ws.head? ≠ some .lparen) :
    runFrom ⟨stack, .name name⟩ ws = runFrom ⟨stack, .complete (.property name)⟩ ws := by
  cases ws with
  | nil => rfl
  | cons w ws =>
    have hw : w ≠ .lparen := by rintro rfl; exact h rfl
    have : Filter.step ⟨stack, .name name⟩ w = Filter.step ⟨stack, .complete (.property name)⟩ w := by
      simp only [Filter.step, if_neg hw]
    simp only [runFrom, List.foldlM_cons, this]

theorem isReserved_write_of_not_finite {x : Float} (h : Number.isFinite x = false) :
    Filter.isReserved (Number.Layout.tagged.write x) = false := by
  simp only [Number.isFinite, Number.Layout.write, Number.Layout.chars] at h ⊢
  split at h
  next => cases h
  next hx =>
    split
    next => decide
    next negative _ => cases negative <;> decide
    next hd => exact absurd hd (hx _ _ _)

theorem op_binaryToken (op : BinaryOp) : (binaryToken op).op? = some (imageOp op) := by
  rcases op with op | op | op <;> cases op <;> rfl

theorem binaryToken_ne_lparen (op : BinaryOp) : binaryToken op ≠ .lparen := by
  rcases op with op | op | op
  · rintro ⟨⟩
  · cases op <;> rintro ⟨⟩
  · rintro ⟨⟩

theorem Carries.head_ne_lparen (h : Carries f stack (.complete e) ts ws r) :
    ws.head? ≠ some .lparen := by
  cases h with
  | binary ht hs h => simpa using binaryToken_ne_lparen _
  | closeGroup hs h => simp
  | closeCall hs h => simp
  | nextArgument hs h => simp
  | finish hs => simp

/-- No operand starts with a closing parenthesis. -/
theorem Carries.heads_ne_rparen (h : Carries f stack .operand ts ws r) :
    ts.head? ≠ some .rparen ∧ ws.head? ≠ some .rparen := by
  cases h with
  | @literal _ ts ws _ t lit ht h =>
    refine ⟨?_, ?_⟩
    · rintro ⟨⟩
      cases ht
    · cases t with
      | float x => simp only [literalToken]; split <;> simp
      | _ => simp [literalToken]
  | property hp hx h => simp
  | constant hn hx hts h => simp
  | call hn hlocal hnative h => simp
  | group h => simp
  | @unary _ ts ws _ t op ht h =>
    refine ⟨?_, ?_⟩
    · rintro ⟨⟩
      cases ht
    · cases op <;> simp [unaryToken]

/-- State of the filter parser where the expression reader has `stack` open and `mode` next. -/
def imageState (stack : Stack) (mode : Mode) : Filter.State where
  stack := imageMorphism.stack stack
  mode :=
    match mode, stack with
    | .complete e, _ => .complete (image e)
    | .argument, .call _ [] :: _ => .firstArgument
    | _, _ => .operand

/-- Whether the reader stands behind a comma. -/
def afterComma (stack : Stack) (mode : Mode) : Bool :=
  match mode, stack with
  | .argument, .call _ (_ :: _) :: _ => true
  | _, _ => false

/-- What is no end of an argument list starts an argument. -/
theorem runFrom_argument (h : ws.head? ≠ some .rparen) :
    runFrom (imageState stack .argument) ws = runFrom (imageState stack .operand) ws := by
  have hfirst : ∀ s : Filter.Stack, runFrom ⟨s, .firstArgument⟩ ws = runFrom ⟨s, .operand⟩ ws := by
    intro s
    cases ws with
    | nil => rfl
    | cons w ws =>
      have hw : w ≠ .rparen := by rintro rfl; exact h rfl
      have : Filter.step ⟨s, .firstArgument⟩ w = Filter.step ⟨s, .operand⟩ w := by
        simp only [Filter.step]
        split
        next => exact absurd rfl hw
        next => rfl
      simp only [runFrom, List.foldlM_cons, this]
  unfold imageState
  split
  next h => cases h
  next => exact hfirst _
  next => rfl

/-! ## One step -/

theorem step_literal {t : Lambda.Token} {lit : Lambda.Expr} (ht : t.literal? = some lit)
    (h : ws.head? ≠ some .lparen) :
    runFrom (imageState stack .operand) (literalToken t :: ws) =
      runFrom (imageState stack (.complete lit)) ws := by
  cases t with
  | float x =>
    cases ht
    cases hx : Number.isFinite x with
    | true => simp only [literalToken, imageState, image, hx, if_true]; rfl
    | false =>
      simp only [literalToken, imageState, image, hx, Bool.false_eq_true, if_false]
      refine (runFrom_cons ?_).trans (runFrom_name h)
      exact Filter.stepWord_of_not_reserved (isReserved_write_of_not_finite hx)
  | int n => cases ht; rfl
  | str s => cases ht; rfl
  | bool b => cases ht; cases b <;> rfl
  | null => cases ht; rfl
  | _ => cases ht

theorem step_name {name : String} (hx : Filter.isReserved name = false)
    (h : ws.head? ≠ some .lparen) {e : Lambda.Expr} (he : image e = .property name) :
    runFrom (imageState stack .operand) (.word name :: ws) =
      runFrom (imageState stack (.complete e)) ws := by
  have hstep : Filter.step (imageState stack .operand) (.word name) =
      .ok ⟨imageMorphism.stack stack, .name name⟩ := Filter.stepWord_of_not_reserved hx
  rw [runFrom_cons hstep, runFrom_name h]
  simp only [imageState, he]

theorem step_call {name : String} (hnative : Builtin.isNative name = true) :
    runFrom (imageState stack .operand) (.word name :: .lparen :: ws) =
      runFrom (imageState (.call name [] :: stack) .argument) ws := by
  have hword : Filter.step (imageState stack .operand) (.word name) =
      .ok ⟨imageMorphism.stack stack, .name name⟩ :=
    Filter.stepWord_of_not_reserved (Filter.native_not_reserved hnative)
  have hparen : Filter.step ⟨imageMorphism.stack stack, .name name⟩ .lparen =
      .ok (imageState (.call name [] :: stack) .argument) := by
    simp only [Filter.step, if_true, hnative]
    rfl
  rw [runFrom_cons hword, runFrom_cons hparen]

theorem step_group :
    runFrom (imageState stack .operand) (.lparen :: ws) =
      runFrom (imageState (.group :: stack) .operand) ws :=
  runFrom_cons rfl

theorem step_unary (op : UnaryOp) :
    runFrom (imageState stack .operand) (unaryToken op :: ws) =
      runFrom (imageState (.unary op :: stack) .operand) ws := by
  cases op <;> exact runFrom_cons rfl

theorem step_binary {op : BinaryOp} {stack' : Stack}
    (hs : Lambda.precedence.await? op stack e = some stack') :
    runFrom (imageState stack (.complete e)) (binaryToken op :: ws) =
      runFrom (imageState stack' .operand) ws := by
  refine runFrom_cons ?_
  have hawait : Filter.precedence.await? (imageOp op) (imageMorphism.stack stack) (image e) =
      some (imageMorphism.stack stack') := by
    rw [← Option.map_some, ← hs]
    exact imageMorphism.await_map op stack e
  simp only [imageState, Filter.step, Filter.stepComplete, op_binaryToken, Option.bind_some, hawait]

theorem step_close {t : Filter.Token} (ht : t.op? = none) :
    Filter.step (imageState stack (.complete e)) t =
      Filter.close (imageMorphism.stack stack) (image e) t := by
  simp only [imageState, Filter.step, Filter.stepComplete, ht, Option.bind_none]

theorem close_image {stack' : Stack} {frame : Frame Lambda.Expr BinaryOp} {last : Lambda.Expr}
    (hs : Lambda.precedence.reduce 0 stack e = (frame :: stack', last)) :
    Filter.precedence.reduce 0 (imageMorphism.stack stack) (image e) =
      (imageMorphism.frame frame :: imageMorphism.stack stack', image last) := by
  have := imageMorphism.reduce_map 0 stack e
  rw [hs] at this
  exact this

theorem image_call (name : String) (args : List Lambda.Expr) (last : Lambda.Expr) :
    image (.call name (args ++ [last])) = .call name (args.map image ++ [image last]) := by
  rw [image, imageAll_eq_map, List.map_append]
  rfl

theorem step_closeGroup {stack' : Stack} {inner : Lambda.Expr}
    (hs : Lambda.precedence.reduce 0 stack e = (.group :: stack', inner)) :
    runFrom (imageState stack (.complete e)) (.rparen :: ws) =
      runFrom (imageState stack' (.complete inner)) ws := by
  refine runFrom_cons ?_
  rw [step_close rfl, Filter.close, close_image hs]
  rfl

theorem step_closeCall {stack' : Stack} {name : String} {args : List Lambda.Expr}
    {last : Lambda.Expr}
    (hs : Lambda.precedence.reduce 0 stack e = (.call name args :: stack', last)) :
    runFrom (imageState stack (.complete e)) (.rparen :: ws) =
      runFrom (imageState stack' (.complete (.call name (args ++ [last])))) ws := by
  refine runFrom_cons ?_
  rw [step_close rfl, Filter.close, close_image hs]
  simp only [imageState, image_call]
  rfl

theorem step_nextArgument {stack' : Stack} {name : String} {args : List Lambda.Expr}
    {last : Lambda.Expr}
    (hs : Lambda.precedence.reduce 0 stack e = (.call name args :: stack', last)) :
    runFrom (imageState stack (.complete e)) (.comma :: ws) =
      runFrom (imageState (.call name (args ++ [last]) :: stack') .argument) ws := by
  refine runFrom_cons ?_
  rw [step_close rfl, Filter.close, close_image hs]
  cases args with
  | nil => simp [imageState, Precedence.Morphism.stack, Precedence.Morphism.frame, imageMorphism]
  | cons a args => simp [imageState, Precedence.Morphism.stack, Precedence.Morphism.frame, imageMorphism]

theorem finish_image (hs : Lambda.precedence.reduce 0 stack e = ([], r)) :
    runFrom (imageState stack (.complete e)) [] = .ok (image r) := by
  have hreduce : Filter.precedence.reduce 0 (imageMorphism.stack stack) (image e) = ([], image r) := by
    have := imageMorphism.reduce_map 0 stack e
    rw [hs] at this
    exact this
  show Filter.closeEnd (imageMorphism.stack stack) (image e) = .ok (image r)
  rw [Filter.closeEnd, hreduce]

/-! ## Whole runs -/

/-- The filter parser builds the image of `r`, or refuses a trailing comma. -/
def Outcome (trailing : Bool) (r : Lambda.Expr) (x : Except Filter.ParseError Filter.Expr) : Prop :=
  match trailing with
  | false => x = .ok (image r)
  | true => ∃ err, x = .error err

/-- **The filter parser follows the expression reader**, up to trailing commas. -/
theorem Carries.runFrom (h : Carries f stack mode ts ws r) :
    Outcome (trailingCommaFrom (afterComma stack mode) ts) r
      (runFrom (imageState stack mode) ws) := by
  induction h with
  | @literal stack ts ws r t lit ht h ih =>
    rw [step_literal ht h.head_ne_lparen]
    have hcomma : t ≠ .comma := by rintro rfl; cases ht
    exact (trailingCommaFrom_cons hcomma).symm ▸ ih
  | @property stack ts ws r p x hp hx h ih =>
    rw [step_name (e := .property (.param p) x) hx h.head_ne_lparen (by rw [image])]
    exact ih
  | @constant stack ts ws r name hn hx hts h ih =>
    rw [step_name (e := .ident name) hx h.head_ne_lparen (by rw [image])]
    exact ih
  | call hn hlocal hnative h ih =>
    rw [step_call hnative]
    exact ih
  | group h ih =>
    rw [step_group]
    exact ih
  | @unary stack ts ws r t op ht h ih =>
    rw [step_unary]
    have hcomma : t ≠ .comma := by rintro rfl; cases ht
    exact (trailingCommaFrom_cons hcomma).symm ▸ ih
  | @noArgument stack ts ws r name args h ih =>
    cases args with
    | nil => exact ih
    | cons a args => exact ⟨_, runFrom_cons_error rfl⟩
  | argument h ih =>
    rw [trailingCommaFrom_of_head h.heads_ne_rparen.1, runFrom_argument h.heads_ne_rparen.2]
    exact ih
  | @binary stack stack' ts ws r t op e ht hs h ih =>
    rw [step_binary hs]
    have hcomma : t ≠ .comma := by rintro rfl; cases ht
    exact (trailingCommaFrom_cons hcomma).symm ▸ ih
  | closeGroup hs h ih =>
    rw [step_closeGroup hs]
    exact ih
  | closeCall hs h ih =>
    rw [step_closeCall hs]
    exact ih
  | @nextArgument stack stack' ts ws r e name args last hs h ih =>
    rw [step_nextArgument hs]
    have hargs : afterComma (.call name (args ++ [last]) :: stack') .argument = true := by
      cases args <;> rfl
    rwa [hargs] at ih
  | finish hs =>
    exact finish_image hs

end RowQuery.PushDown
