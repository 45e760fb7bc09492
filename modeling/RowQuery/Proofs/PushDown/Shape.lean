import RowQuery.Proofs.Lambda.Scope
import RowQuery.Proofs.PushDown.Compiled

/-!
# The shape of what is pushed down

The tokens of an eligible predicate say enough about its body: at every node of it the store can be asked
(`eligible_answerable`). The filter that the compiled text spells is the body again, node by node, with
the parameter left out (`parse_compile_mirrors`).
-/

namespace RowQuery

/-- The operator without the difference between loose and strict comparisons, which filters lack. -/
def BinaryOp.loosened : BinaryOp → BinaryOp
  | .comparison .strictEqual => .comparison .equal
  | .comparison .strictNotEqual => .comparison .notEqual
  | op => op

namespace PushDown

open Lambda

variable {source p : String} {f : Lambda} {e c : Lambda.Expr} {w : Filter.Expr}

/-! ## Nodes of the body -/

/-- What the store can be asked at one node of a predicate with the parameter `p`. -/
structure Answerable (p : String) (node : Lambda.Expr) : Prop where
  /-- A parameter stands nowhere but in front of a property. -/
  params : ∀ q, .param q ∈ node.operands → ∃ x, node = .property (.param q) x
  properties : ∀ object x, node = .property object x →
    object = .param p ∧ Filter.isReserved x = false
  names : ∀ x, node = .ident x → Filter.isReserved x = false
  calls : ∀ g args, node = .call g args → Builtin.isNative g = true ∧ Builtin.isLocal g = false

theorem native_not_local {name : String} (h : Builtin.isNative name = true) :
    Builtin.isLocal name = false :=
  Filter.forall_native (P := fun name => Builtin.isLocal name = false) (by decide) h

theorem Askable.ne_param (h : Askable f e) (q : String) : e ≠ .param q := by
  rintro rfl
  cases h

theorem Askable.operand (h : Askable f e) (hc : c ∈ e.operands) :
    Askable f c ∨ ∃ q, c = .param q := by
  cases h with
  | property hp hx => exact .inr ⟨_, List.mem_singleton.mp hc⟩
  | call hnative hargs => exact .inl (hargs c hc)
  | unary h => exact .inl (List.mem_singleton.mp hc ▸ h)
  | binary hleft hright =>
    rcases List.mem_pair.mp hc with rfl | rfl
    · exact .inl hleft
    · exact .inl hright
  | _ => cases hc

theorem Askable.contains (h : Askable f e) (hc : e.Contains c) :
    Askable f c ∨ ∃ q, c = .param q := by
  induction hc with
  | refl => exact .inl h
  | tail _ hstep ih =>
    rcases ih with ih | ⟨q, rfl⟩
    · exact ih.operand hstep
    · cases hstep

theorem Askable.answerable (hparams : f.params = [p]) (h : Askable f e) : Answerable p e where
  params q hq := by
    cases h with
    | property hp hx =>
      cases List.mem_singleton.mp hq
      exact ⟨_, rfl⟩
    | call hnative hargs => exact absurd rfl ((hargs _ hq).ne_param q)
    | unary h => exact absurd (List.mem_singleton.mp hq).symm (h.ne_param q)
    | binary hleft hright =>
      rcases List.mem_pair.mp hq with hq | hq
      · exact absurd hq.symm (hleft.ne_param q)
      · exact absurd hq.symm (hright.ne_param q)
    | _ => cases hq
  properties object x he := by
    subst he
    cases h with
    | property hp hx => exact ⟨by simpa [Lambda.binds, hparams] using hp, hx⟩
  names x he := by
    subst he
    cases h with
    | ident hn hx => exact hx
  calls g args he := by
    subst he
    cases h with
    | call hnative hargs => exact ⟨hnative, native_not_local hnative⟩

theorem answerable_param (p q : String) : Answerable p (.param q) where
  params _ h := by cases h
  properties _ _ h := by cases h
  names _ h := by cases h
  calls _ _ h := by cases h

/-- **At every node of an eligible predicate the store can be asked.** -/
theorem eligible_answerable (hparse : Lambda.parse source = .ok f) (heligible : isEligible f = true) :
    ∃ p, f.params = [p] ∧ (∀ q, f.body ≠ .param q) ∧
      ∀ node, f.body.Contains node → Answerable p node := by
  obtain ⟨-, -, -, haskable, p, hparams⟩ := compile_of_eligible hparse heligible
  refine ⟨p, hparams, haskable.ne_param, fun node hnode => ?_⟩
  rcases haskable.contains hnode with hnode | ⟨q, rfl⟩
  · exact hnode.answerable hparams
  · exact answerable_param p q

/-- A parameter with the name of a filter word, and calls in calls. -/
theorem eligible_answerable_calls :
    ∃ f, Lambda.parse "eq => !endswith(tolower(eq.name), toupper(suffix)) or -eq.eq1 <= 3" = .ok f ∧
      isEligible f = true ∧ ∃ p, f.params = [p] ∧ (∀ q, f.body ≠ .param q) ∧
        ∀ node, f.body.Contains node → Answerable p node := by
  obtain ⟨f, hparse, heligible⟩ : ∃ f,
      Lambda.parse "eq => !endswith(tolower(eq.name), toupper(suffix)) or -eq.eq1 <= 3" = .ok f ∧
        isEligible f = true := by decide +kernel
  exact ⟨f, hparse, heligible, eligible_answerable hparse heligible⟩

/-! ## The filter -/

/-- The filter repeats the expression node by node, where a property of the parameter `p` becomes a
property of the record. -/
inductive Mirrors (p : String) : Lambda.Expr → Filter.Expr → Prop where
  | float (x : Float) : Mirrors p (.float x) (.literal (.float x))
  | int (n : Int64) : Mirrors p (.int n) (.literal (.int n))
  | str (s : String) : Mirrors p (.str s) (.literal (.str s))
  | bool (b : Bool) : Mirrors p (.bool b) (.literal (.bool b))
  | null : Mirrors p .null (.literal .null)
  | property (x : String) : Mirrors p (.property (.param p) x) (.property x)
  | ident (x : String) : Mirrors p (.ident x) (.property x)
  | call (name : String) {args : List Lambda.Expr} {images : List Filter.Expr}
      (hlength : args.length = images.length)
      (h : ∀ i (_ : i < args.length) (_ : i < images.length), Mirrors p args[i] images[i]) :
      Mirrors p (.call name args) (.call name images)
  | unary (op : UnaryOp) {e : Lambda.Expr} {w : Filter.Expr} (h : Mirrors p e w) :
      Mirrors p (.unary op e) (.unary op w)
  | binary {op : BinaryOp} {op' : Filter.Op} {left right : Lambda.Expr} {left' right' : Filter.Expr}
      (hop : op'.general = op.loosened) (hleft : Mirrors p left left')
      (hright : Mirrors p right right') : Mirrors p (.binary op left right) (.binary op' left' right')

theorem general_imageOp (op : BinaryOp) : (imageOp op).general = op.loosened := by
  rcases op with op | op | op
  · cases op <;> rfl
  · rfl
  · rfl

theorem general_injective : Function.Injective Filter.Op.general := by
  rintro (r | op | op) (r' | op' | op') h
  · cases r <;> cases r' <;> first | rfl | cases h
  all_goals cases h
  · rfl
  · rfl

theorem Askable.mirrors (hparams : f.params = [p]) (h : Askable f e)
    (hwritable : e.everywhere Expr.isWritable = true) : Mirrors p e (image e) := by
  induction h with
  | float x =>
    have hx : Number.isFinite x = true := hwritable
    simp only [image, hx, if_true]
    exact .float x
  | int n => exact .int n
  | str s => exact .str s
  | bool b => exact .bool b
  | null => exact .null
  | @ident name hn hx => exact .ident name
  | @property q x hp hx =>
    obtain rfl : q = p := by simpa [Lambda.binds, hparams] using hp
    exact .property x
  | @call name args hnative hargs ih =>
    simp only [Expr.everywhere, Bool.and_eq_true, Expr.everywhereIn_iff] at hwritable
    rw [image, imageAll_eq_map]
    refine .call name (List.length_map _).symm fun i hi hi' => ?_
    rw [List.getElem_map]
    exact ih _ (List.getElem_mem hi) (hwritable.2 _ (List.getElem_mem hi))
  | @unary op e h ih =>
    simp only [Expr.everywhere, Bool.and_eq_true] at hwritable
    exact .unary op (ih hwritable.2)
  | @binary op left right hleft hright ihleft ihright =>
    simp only [Expr.everywhere, Bool.and_eq_true] at hwritable
    exact .binary (general_imageOp op) (ihleft hwritable.1.2) (ihright hwritable.2)

/-- An expression has no other mirror. -/
theorem Mirrors.eq_image (h : Mirrors p e w) (hwritable : e.everywhere Expr.isWritable = true) :
    w = image e := by
  induction h with
  | float x =>
    have hx : Number.isFinite x = true := hwritable
    simp only [image, hx, if_true]
  | @call name args images hlength h ih =>
    simp only [Expr.everywhere, Bool.and_eq_true, Expr.everywhereIn_iff] at hwritable
    rw [image, imageAll_eq_map]
    congr 1
    refine List.ext_getElem (by rw [List.length_map, hlength]) fun i hi hi' => ?_
    have hargs : i < args.length := hlength ▸ hi
    rw [List.getElem_map]
    exact ih i hargs hi (hwritable.2 _ (List.getElem_mem hargs))
  | unary op h ih =>
    simp only [Expr.everywhere, Bool.and_eq_true] at hwritable
    rw [image, ih hwritable.2]
  | @binary op op' left right left' right' hop hleft hright ihleft ihright =>
    simp only [Expr.everywhere, Bool.and_eq_true] at hwritable
    rw [image, ihleft hwritable.1.2, ihright hwritable.2,
      general_injective (hop.trans (general_imageOp op).symm)]
  | _ => rw [image]

/-- **The compiled text spells the one filter that mirrors the body.** -/
theorem parse_compile_mirrors (hparse : Lambda.parse source = .ok f)
    (heligible : isEligible f = true) (hcomma : f.hasTrailingComma = false)
    (hwritable : f.body.everywhere Expr.isWritable = true) :
    ∃ text filter, compile f = .ok text ∧ Filter.parse text = .ok filter ∧
      ∀ w, Mirrors f.param f.body w ↔ w = filter := by
  obtain ⟨text, hcompile, houtcome, haskable, p, hparams⟩ := compile_of_eligible hparse heligible
  rw [hcomma] at houtcome
  have hparam : f.param = p := by simp [Lambda.param, hparams]
  refine ⟨text, image f.body, hcompile, houtcome, fun w => ⟨fun h => h.eq_image hwritable, ?_⟩⟩
  rintro rfl
  rw [hparam]
  exact haskable.mirrors hparams hwritable

/-- Signs of both kinds, a strict comparison, a float, a call and a name that nothing binds. -/
theorem parse_compile_mirrors_zone :
    ∃ f text filter,
      Lambda.parse "r => -(r.a - -2) % 3 !== 1.5 && !startswith(r.b, 'x') || zone <= r.y" = .ok f ∧
        compile f = .ok text ∧ Filter.parse text = .ok filter ∧
          ∀ w, Mirrors f.param f.body w ↔ w = filter := by
  obtain ⟨f, hparse, heligible, hcomma, hwritable⟩ : ∃ f,
      Lambda.parse "r => -(r.a - -2) % 3 !== 1.5 && !startswith(r.b, 'x') || zone <= r.y" = .ok f ∧
        isEligible f = true ∧ f.hasTrailingComma = false ∧
          f.body.everywhere Expr.isWritable = true := by decide +kernel
  obtain ⟨text, filter, hcompile, hfilter, hmirrors⟩ :=
    parse_compile_mirrors hparse heligible hcomma hwritable
  exact ⟨f, text, filter, hparse, hcompile, hfilter, hmirrors⟩

end PushDown

end RowQuery
