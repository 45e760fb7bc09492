import RowQuery.Proofs.Eval.Causes
import RowQuery.Proofs.Lambda.Overflow
import RowQuery.Proofs.Lambda.Sentence

/-!
# Scope of names

The parser decides for each name whether the lambda binds it, and evaluation relies on that. In a lambda
that parses, every parameter in the body is one of the lambda's and no other name is (`Phrase.resolved`).
Evaluation fails because of the values it meets, or at a name that has no value (`eval_stops`). Together:
a lambda applied to the right number of values stops at no name but one that it mentions and does not bind
(`parse_resolves`).
-/

namespace RowQuery.Lambda

/-! ## Parts of expressions -/

/-- The expressions directly inside an expression. -/
def Expr.operands : Expr → List Expr
  | .property object _ => [object]
  | .call _ args => args
  | .unary _ e => [e]
  | .binary _ left right => [left, right]
  | _ => []

/-- An expression contains itself and, at any depth, what is inside of it. -/
def Expr.Contains (e part : Expr) : Prop :=
  Relation.ReflTransGen (fun whole part => part ∈ whole.operands) e part

theorem Expr.Contains.self (e : Expr) : e.Contains e :=
  .refl

theorem Expr.Contains.operand {e c part : Expr} (hc : c ∈ e.operands) (h : c.Contains part) :
    e.Contains part :=
  .head hc h

theorem Expr.contains_iff {e part : Expr} : e.Contains part ↔ e = part ∨ ∃ c ∈ e.operands, c.Contains part :=
  Relation.ReflTransGen.cases_head_iff

/-! ## Names in what is parsed -/

/-- Parameters in an expression are among `params`, and other names are not. -/
structure Expr.Resolved (params : List String) (e : Expr) : Prop where
  bound : ∀ name, e.Contains (.param name) → name ∈ params
  free : ∀ name, e.Contains (.ident name) → name ∉ params

variable {params : List String}

/-- What is no name itself is resolved where its operands are. -/
theorem Expr.resolved_of_operands {e : Expr} (hparam : ∀ name, e ≠ .param name)
    (hident : ∀ name, e ≠ .ident name) (h : ∀ c ∈ e.operands, c.Resolved params) : e.Resolved params where
  bound name hname := by
    obtain heq | ⟨c, hc, hname⟩ := contains_iff.mp hname
    · exact absurd heq (hparam name)
    · exact (h c hc).bound name hname
  free name hname := by
    obtain heq | ⟨c, hc, hname⟩ := contains_iff.mp hname
    · exact absurd heq (hident name)
    · exact (h c hc).free name hname

theorem Expr.resolved_leaf {e : Expr} (hparam : ∀ name, e ≠ .param name) (hident : ∀ name, e ≠ .ident name)
    (h : e.operands = []) : e.Resolved params :=
  resolved_of_operands hparam hident (h ▸ List.forall_mem_nil _)

theorem Expr.resolved_param {name : String} (h : name ∈ params) : (Expr.param name).Resolved params where
  bound name' hname := by
    obtain heq | ⟨c, hc, -⟩ := contains_iff.mp hname
    · cases heq
      exact h
    · cases hc
  free name' hname := by
    obtain heq | ⟨c, hc, -⟩ := contains_iff.mp hname
    · cases heq
    · cases hc

theorem Expr.resolved_ident {name : String} (h : name ∉ params) : (Expr.ident name).Resolved params where
  bound name' hname := by
    obtain heq | ⟨c, hc, -⟩ := contains_iff.mp hname
    · cases heq
    · cases hc
  free name' hname := by
    obtain heq | ⟨c, hc, -⟩ := contains_iff.mp hname
    · cases heq
      exact h
    · cases hc

/-- **The names in a phrase are resolved.** -/
theorem Phrase.resolved {trailing : Bool} {c : Category} {e : Expr} {ts : List Token}
    (h : Phrase trailing params c e ts) : e.Resolved params := by
  induction h with
  | tighter _ _ ih | parentheses _ ih => exact ih
  | binary _ _ _ ihl ihr =>
    refine Expr.resolved_of_operands (by simp) (by simp) ?_
    exact List.forall_mem_cons.mpr ⟨ihl, List.forall_mem_singleton.mpr ihr⟩
  | unary _ _ ih | property _ _ ih =>
    exact Expr.resolved_of_operands (by simp) (by simp) (List.forall_mem_singleton.mpr ih)
  | call name _ ih | trailingComma name _ _ _ ih =>
    exact Expr.resolved_of_operands (by simp) (by simp) (List.forall_mem_map.mpr ih)
  | param h => exact Expr.resolved_param h
  | ident h => exact Expr.resolved_ident h
  | float | int | str | bool | null => exact Expr.resolved_leaf (by simp) (by simp) rfl

theorem Sentence.resolved {trailing : Bool} {body : Expr} {ts : List Token}
    (h : Sentence trailing params body ts) : body.Resolved params := by
  cases h with
  | intro returns semicolons hparams hbody => exact hbody.resolved

theorem resolved_of_parse {source : String} {f : Lambda} (h : parse source = .ok f) :
    f.body.Resolved f.params := by
  obtain ⟨-, -, rest, hparams, hbody⟩ := parse_eq_ok h
  obtain ⟨-, head, hhead, -⟩ := written_of_parseParams hparams
  exact (sentence_of_parseBody hhead hbody).resolved

/-! ## Names in what is evaluated -/

variable {env : Env}

/-- What can stop the evaluation of an expression: the values that it meets, a name that nothing binds, or
a parameter without a value. -/
inductive Expr.Stops (env : Env) (e : Expr) : Failure EvalError → Prop where
  | values {failure : Failure EvalError} (h : failure.FromValues) : Stops env e failure
  | ident {name : String} (h : e.Contains (.ident name)) : Stops env e (.error (.undefinedName name))
  | param {name : String} (h : e.Contains (.param name)) (hnone : env.lookup name = none) :
      Stops env e (.error (.undefinedName name))

/-- What stops an operand stops the expression. -/
theorem Expr.Stops.operand {e c : Expr} {failure : Failure EvalError} (h : c.Stops env failure)
    (hc : c ∈ e.operands) : e.Stops env failure := by
  cases h with
  | values h => exact .values h
  | ident h => exact .ident (h.operand hc)
  | param h hnone => exact .param (h.operand hc) hnone

theorem failsOnly_of_fromValues {α : Type} {e : Expr} {x : Eval α} (h : FailsOnly Failure.FromValues x) :
    FailsOnly (e.Stops env) x :=
  h.mono fun _ => .values

mutual

/-- **What stops the evaluation of an expression.** -/
theorem eval_stops : (e : Expr) → FailsOnly (e.Stops env) (e.eval env)
  | .float _ | .int _ | .str _ | .bool _ | .null => failsOnly_ok
  | .param name => by
    rw [Expr.eval]
    split
    next => exact failsOnly_ok
    next hnone => exact failsOnly_error.mpr (.param (.self _) hnone)
  | .ident name => failsOnly_error.mpr (.ident (.self _))
  | .property object name => by
    refine ((eval_stops object).mono fun _ h => ?_).bind fun v =>
      failsOnly_of_fromValues (v.property_fromValues name)
    exact h.operand (by simp [Expr.operands])
  | .call name args => by
    refine ((evalAll_stops args).mono ?_).bind fun vs => failsOnly_of_fromValues ?_
    · rintro failure ⟨c, hc, h⟩
      exact h.operand hc
    · exact lift_fromValues (Builtin.call_fromValues name vs)
  | .unary op operand => by
    refine ((eval_stops operand).mono fun _ h => ?_).bind fun v =>
      failsOnly_of_fromValues (op.apply_fromValues v)
    exact h.operand (by simp [Expr.operands])
  | .binary op left right => by
    have hleft : FailsOnly ((Expr.binary op left right).Stops env) (left.eval env) :=
      (eval_stops left).mono fun _ h => h.operand (by simp [Expr.operands])
    have hright : FailsOnly ((Expr.binary op left right).Stops env) (right.eval env) :=
      (eval_stops right).mono fun _ h => h.operand (by simp [Expr.operands])
    by_cases hconnective : ∃ c, op = .connective c
    · obtain ⟨c, rfl⟩ := hconnective
      rw [Expr.eval]
      refine hleft.bind fun v => ?_
      split
      · exact failsOnly_pure
      · exact hright.bind fun w => failsOnly_pure
    · rw [eval_binary fun c hc => hconnective ⟨c, hc⟩]
      exact hleft.bind fun v => hright.bind fun w => failsOnly_of_fromValues (op.apply_fromValues v w)

/-- What stops the evaluation of arguments stops that of one of them. -/
theorem evalAll_stops : (args : List Expr) →
    FailsOnly (fun failure => ∃ e ∈ args, e.Stops env failure) (Expr.evalAll env args)
  | [] => failsOnly_ok
  | e :: rest => by
    refine ((eval_stops e).mono fun _ h => ⟨e, List.mem_cons_self, h⟩).bind fun v => ?_
    refine ((evalAll_stops rest).mono ?_).bind fun vs => failsOnly_pure
    rintro failure ⟨c, hc, h⟩
    exact ⟨c, List.mem_cons_of_mem e hc, h⟩

end

/-! ## Application -/

/-- Every parameter has a value if there are as many values as parameters. -/
theorem lookup_zip_ne_none {name : String} {args : List Value} (hname : name ∈ params)
    (hlength : params.length = args.length) : (params.zip args).lookup name ≠ none := by
  rw [← List.map_fst_zip (Nat.le_of_eq hlength)] at hname
  obtain ⟨binding, hbinding, rfl⟩ := List.mem_map.mp hname
  intro hnone
  simpa using List.lookup_eq_none_iff.mp hnone binding hbinding

theorem apply_argumentCount_iff (f : Lambda) (args : List Value) (expected got : Nat) :
    f.apply args = Run.fail (.argumentCount expected got) ↔
      f.params.length ≠ args.length ∧ expected = f.params.length ∧ got = args.length := by
  rw [apply]
  split
  next h =>
    refine iff_of_false (fun hfail => ?_) fun h' => h'.1 h
    cases eval_stops f.body _ hfail with
    | values h => exact h
  next h => simp [Run.fail, h, eq_comm]

/-- **Names are resolved by the parser.** The parameters in the body of a lambda that parses are those of
the lambda, and the other names in it are not. So it fails for the number of its arguments exactly if that
is not the number of its parameters, and, given the right number, at no name but one that it mentions and
does not bind. -/
theorem parse_resolves {source : String} {f : Lambda} (h : parse source = .ok f) :
    f.body.Resolved f.params ∧ ∀ args,
      (∀ expected got, f.apply args = Run.fail (.argumentCount expected got) ↔
        f.params.length ≠ args.length ∧ expected = f.params.length ∧ got = args.length) ∧
      ∀ name, f.apply args = Run.fail (.undefinedName name) →
        f.params.length = args.length ∧ f.body.Contains (.ident name) ∧ name ∉ f.params := by
  have hresolved := resolved_of_parse h
  refine ⟨hresolved, fun args => ⟨apply_argumentCount_iff f args, fun name hfail => ?_⟩⟩
  rw [apply] at hfail
  split at hfail
  next hlength =>
    refine ⟨hlength, ?_⟩
    cases eval_stops f.body _ hfail with
    | values h => exact absurd h id
    | ident hname => exact ⟨hname, hresolved.free name hname⟩
    | param hname hnone => exact absurd hnone (lookup_zip_ne_none (hresolved.bound name hname) hlength)
  next => simp [Run.fail] at hfail

/-- A parameter that is also the name of a property and of a function, beside a name that nothing binds. -/
theorem parse_resolves_free :
    ∃ f, parse "(row, f) => f(row.f, f, g)" = .ok f ∧
      f.apply [.null, .null] = Run.fail (.undefinedName "g") ∧ f.body.Resolved f.params ∧
        f.body.Contains (.ident "g") ∧ "g" ∉ f.params := by
  obtain ⟨f, hf, hfailure⟩ : ∃ f, parse "(row, f) => f(row.f, f, g)" = .ok f ∧
      f.apply [.null, .null] = .error (.error (.undefinedName "g")) := by decide +kernel
  obtain ⟨hresolved, hargs⟩ := parse_resolves hf
  obtain ⟨-, hname, hfree⟩ := (hargs [.null, .null]).2 "g" hfailure
  exact ⟨f, hf, hfailure, hresolved, hname, hfree⟩

end RowQuery.Lambda
