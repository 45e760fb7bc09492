import RowQuery.Proofs.PushDown.Compiled

/-!
# Predicates that are refused

A predicate that parses is compiled exactly if nothing objects to its tokens, and otherwise is refused
for what it asks for: what parses is never found malformed (`isEligible_iff_compiles`).
-/

namespace RowQuery.PushDown

open Lambda

variable {source : String} {f : Lambda} {ts read rest behind before : List Lambda.Token}
  {stack : Stack} {mode : Mode} {t : Lambda.Token} {r : Expr} {depth : Nat} {role : Option Role}
  {e : Expr} {err : CompileError}

/-- Whether an error says that the store lacks what a predicate asks for, and not that the predicate is
malformed. -/
def CompileError.isRefusal : CompileError → Bool
  | localFunction _ | unsupportedFunction _ | bareParameter _ | nestedProperty _ | reservedName _ => true
  | lexical _ | unexpectedToken _ | straySeparator | unbalanced | empty => false

/-- Some of the tokens is refused. -/
def Refused (f : Lambda) (depth : Nat) (role : Option Role) (ts : List Lambda.Token) : Prop :=
  ∃ err, segmentsFrom f depth role ts = .error err ∧ err.isRefusal = true

/-! ## The first token -/

theorem Refused.here (h : nextSegment f depth role t rest = .error err) (herr : err.isRefusal = true) :
    Refused f depth role (t :: rest) := by
  refine ⟨err, ?_, herr⟩
  rw [segmentsFrom_cons, h]

theorem Refused.later {s : Segment} {rest' : List Lambda.Token}
    (hnext : nextSegment f depth role t rest = .ok (s, rest'))
    (h : Refused f s.depth (some s.role) rest') : Refused f depth role (t :: rest) := by
  obtain ⟨err, hrest, herr⟩ := h
  refine ⟨err, ?_, herr⟩
  rw [segmentsFrom_cons, hnext]
  dsimp only
  rw [hrest]
  rfl

/-- Whether a token is a piece of filter text on its own. -/
def isPiece (t : Lambda.Token) : Bool :=
  (piece? none t).isSome

theorem isPiece_literal {lit : Expr} (h : t.literal? = some lit) : isPiece t = true := by
  cases t <;> first | rfl | cases h

theorem isPiece_unary {op : UnaryOp} (h : t.unaryOp? = some op) : isPiece t = true := by
  cases t <;> first | rfl | cases h

theorem isPiece_binary {op : BinaryOp} (h : t.binaryOp? = some op) : isPiece t = true := by
  cases t <;> first | rfl | cases h

/-- No piece of its own is refused. -/
theorem Refused.behind_piece (ht : isPiece t = true) (h : ∀ role, Refused f depth role rest) :
    Refused f depth role (t :: rest) := by
  obtain ⟨role', text, hpiece⟩ : ∃ role' text, piece? role t = some (role', text) := by
    cases t with
    | minus => simp only [piece?]; split <;> exact ⟨_, _, rfl⟩
    | _ => first | exact ⟨_, _, rfl⟩ | cases ht
  exact .later (nextSegment_of_piece hpiece depth) (h _)

theorem refused_dot : Refused f depth role (.dot :: rest) :=
  .here rfl rfl

/-- A parameter has to stand in front of a property. -/
theorem refused_param {name : String} (hn : f.binds name = true) (h : rest.head? ≠ some .dot) :
    Refused f depth role (.ident name :: rest) := by
  have hproperty : paramProperty name rest = .error (.bareParameter name) := by
    unfold paramProperty
    split
    next => exact absurd rfl h
    next => rfl
  have hnext : nextSegment f depth role (.ident name) rest = .error (.bareParameter name) := by
    simp only [nextSegment, hn, if_true, hproperty]
    rfl
  exact .here hnext rfl

/-- Only one property of a parameter can be read, and not under a reserved name. -/
theorem refused_property {name x : String} (hn : f.binds name = true)
    (h : rest.head? ≠ some .dot → Filter.isReserved x = false → ∀ role, Refused f depth role rest) :
    Refused f depth role (.ident name :: .dot :: .ident x :: rest) := by
  by_cases hdot : rest.head? = some .dot
  · obtain ⟨rest, rfl⟩ := List.head?_eq_some_iff.mp hdot
    have hnext : nextSegment f depth role (.ident name) (.dot :: .ident x :: .dot :: rest) =
        .error (.nestedProperty (Token.propertyName rest.head?)) := by
      simp only [nextSegment, hn, if_true, paramProperty]
      rfl
    exact .here hnext rfl
  · have hnext : nextSegment f depth role (.ident name) (.dot :: .ident x :: rest) = _ :=
      nextSegment_property hn hdot depth role
    split at hnext
    next => exact .here hnext rfl
    next hx => exact .later hnext (h hdot (Bool.eq_false_of_not_eq_true hx) _)

theorem refused_name {name : String} (hn : f.binds name = false) (hparen : rest.head? ≠ some .lparen)
    (h : Filter.isReserved name = false → ∀ role, Refused f depth role rest) :
    Refused f depth role (.ident name :: rest) := by
  have hnext := nextSegment_name hn hparen depth role
  split at hnext
  next => exact .here hnext rfl
  next hx => exact .later hnext (h (Bool.eq_false_of_not_eq_true hx) _)

/-- A function has to be native. -/
theorem refused_call {name : String} (hn : f.binds name = false)
    (h : Builtin.isLocal name = false → Builtin.isNative name = true →
      ∀ role, Refused f (depth + 1) role rest) :
    Refused f depth role (.ident name :: .lparen :: rest) := by
  have hnext := nextSegment_call hn depth role rest
  split at hnext
  next => exact .here hnext rfl
  next hlocal =>
    split at hnext
    next hnative =>
      exact .later hnext (.later rfl (h (Bool.eq_false_of_not_eq_true hlocal) hnative _))
    next => exact .here hnext rfl

/-! ## Runs of the reader -/

theorem objectionFrom_tail (h : objection? f before t rest.head? = none) :
    objectionFrom? f before (t :: rest) = objectionFrom? f (t :: before) rest := by
  rw [objectionFrom?, h]

theorem objectionFrom_piece (h : isPiece t = true) :
    objectionFrom? f before (t :: rest) = objectionFrom? f (t :: before) rest :=
  objectionFrom_tail (by cases t <;> first | rfl | cases h)

/-- No piece of its own is a dot or a parameter. -/
theorem isPiece_ends (h : isPiece t = true) :
    (t :: before).head? ≠ some .dot ∧ endsInParam f (t :: before) = false := by
  refine ⟨?_, ?_⟩
  · rintro ⟨⟩
    cases h
  · cases t <;> first | rfl | cases h

theorem objectionFrom_constant {name : String} (hn : f.binds name = false)
    (hx : Filter.isReserved name = false) (hparen : rest.head? ≠ some .lparen) :
    objectionFrom? f before (.ident name :: rest) = objectionFrom? f (.ident name :: before) rest :=
  objectionFrom_tail (by simp [objection?, hparen, hn, hx])

theorem objectionFrom_property {name x : String} (hb : before.head? ≠ some .dot)
    (hn : f.binds name = true) (hx : Filter.isReserved x = false) (hparen : rest.head? ≠ some .lparen) :
    objectionFrom? f before (.ident name :: .dot :: .ident x :: rest) =
      objectionFrom? f (.ident x :: .dot :: .ident name :: before) rest := by
  have hname : objection? f before (.ident name) (some .dot) = none := by simp [objection?, hn]
  have hdot : objection? f (.ident name :: before) .dot (some (.ident x)) = none := by
    simp [objection?, endsInParam, isParam, hn, hb, Token.propertyName, hx]
  have hproperty : objection? f (.dot :: .ident name :: before) (.ident x) rest.head? = none := by
    simp [objection?, hparen]
  rw [objectionFrom_tail hname, objectionFrom_tail hdot, objectionFrom_tail hproperty]

theorem objectionFrom_call {name : String} (hn : f.binds name = false)
    (hlocal : Builtin.isLocal name = false) (hnative : Builtin.isNative name = true) :
    objectionFrom? f before (.ident name :: .lparen :: rest) =
      objectionFrom? f (.lparen :: .ident name :: before) rest := by
  have hname : objection? f before (.ident name) (some .lparen) = none := by
    simp [objection?, hn, hlocal, hnative, Filter.native_not_reserved hnative]
  rw [objectionFrom_tail hname, objectionFrom_tail rfl]

theorem objectionFrom_semicolons (h : ∀ t ∈ rest, t = .semicolon) :
    objectionFrom? f before rest = none := by
  induction rest generalizing before with
  | nil => rfl
  | cons t rest ih =>
    obtain ⟨rfl, hrest⟩ := List.forall_mem_cons.mp h
    rw [objectionFrom_tail rfl]
    exact ih hrest

/-- No argument list opens behind a complete operand. -/
theorem head_ne_lparen (h : Reading f.params behind r stack (.complete e) ts)
    (hbehind : ∀ t ∈ behind, t = .semicolon) : (ts ++ behind).head? ≠ some .lparen := by
  cases h with
  | binary ht hs h => rintro ⟨⟩; cases ht
  | finish hs =>
    cases behind with
    | nil => simp
    | cons t behind => rw [hbehind t List.mem_cons_self]; simp
  | _ => simp

/-- **What the reader reads is refused** if anything objects to it. -/
theorem refused_of_reading (h : Reading f.params behind r stack mode ts)
    (hbehind : ∀ t ∈ behind, t = .semicolon) (hb : Ready f before mode)
    (ho : objectionFrom? f before (ts ++ behind) ≠ none) (role : Option Role) :
    Refused f (openings stack).length role ts := by
  induction h generalizing before role with
  | literal ht h ih =>
    rw [List.cons_append, objectionFrom_piece (isPiece_literal ht)] at ho
    exact .behind_piece (isPiece_literal ht) (ih (isPiece_ends (isPiece_literal ht)).2 ho)
  | @name stack name ts hdot hparen h ih =>
    have hhead : ts.head? ≠ some .dot ∧ ts.head? ≠ some .lparen := by
      cases ts with
      | nil => simp
      | cons t ts => exact ⟨hdot, hparen⟩
    cases hn : f.binds name with
    | true => exact refused_param hn hhead.1
    | false =>
      refine refused_name hn hhead.2 fun hx => ?_
      rw [List.cons_append, objectionFrom_constant hn hx hparen] at ho
      exact ih (by simp [Ready, endsInParam, isParam, hn]) ho
  | @nameProperty stack name x ts h ih =>
    cases hn : f.binds name with
    | true =>
      refine refused_property hn fun _ hx => ?_
      simp only [List.cons_append] at ho
      rw [objectionFrom_property hb hn hx (head_ne_lparen h hbehind)] at ho
      exact ih (by simp [Ready, endsInParam]) ho
    | false => exact refused_name hn (by simp) fun _ _ => refused_dot
  | @call stack name ts h ih =>
    cases hn : f.binds name with
    | true => exact refused_param hn (by simp)
    | false =>
      refine refused_call hn fun hlocal hnative => ?_
      simp only [List.cons_append] at ho
      rw [objectionFrom_call hn hlocal hnative] at ho
      exact ih (by simp [Ready]) ho
  | group h ih => exact .later rfl (ih (by simp [Ready]) ho _)
  | unary ht h ih =>
    rw [List.cons_append, objectionFrom_piece (isPiece_unary ht)] at ho
    exact .behind_piece (isPiece_unary ht) (ih (isPiece_ends (f := f) (isPiece_unary ht)).1 ho)
  | noArgument h ih => exact .later rfl (ih (by simp [Ready, endsInParam, isParam]) ho _)
  | argument h ih => exact ih hb ho role
  | property h ih => exact refused_dot
  | binary ht hs h ih =>
    rw [List.cons_append, objectionFrom_piece (isPiece_binary ht)] at ho
    rw [← openings_of_await hs]
    exact .behind_piece (isPiece_binary ht) (ih (isPiece_ends (f := f) (isPiece_binary ht)).1 ho)
  | closeGroup hs h ih =>
    rw [openings_of_reduce hs]
    exact .later rfl (ih (by simp [Ready, endsInParam, isParam]) ho _)
  | closeCall hs h ih =>
    rw [openings_of_reduce hs]
    exact .later rfl (ih (by simp [Ready, endsInParam, isParam]) ho _)
  | nextArgument hs h ih =>
    rw [openings_of_reduce hs]
    exact .behind_piece rfl (ih (by simp [Ready]) ho)
  | finish hs => exact absurd (objectionFrom_semicolons hbehind) ho

/-! ## Compiling -/

theorem BodyOf.compile_of_some (h : BodyOf f ts before read behind)
    (ho : objectionFrom? f [] ts ≠ none) : ∃ err, compile f = .error err ∧ err.isRefusal = true := by
  obtain ⟨err, hsegments, herr⟩ :=
    refused_of_reading h.reading h.semicolons h.ready (h.objection ▸ ho) none
  have hsegments : segments f = .error err := h.segments_eq.trans hsegments
  refine ⟨err, ?_, herr⟩
  rw [compile, hsegments]
  rfl

/-- **A predicate of one parameter is eligible exactly if it compiles**, and a predicate that does not
compile, with however many parameters, is not malformed. -/
theorem isEligible_iff_compiles (hparse : Lambda.parse source = .ok f) :
    (f.params.length = 1 → (isEligible f = true ↔ ∃ text, compile f = .ok text)) ∧
      ∀ err, compile f = .error err → err.isRefusal = true := by
  obtain ⟨ts, before, read, behind, hbody⟩ := exists_bodyOf hparse
  by_cases ho : objectionFrom? f [] ts = none
  · obtain ⟨text, hcompile, -⟩ := hbody.compile_of_none ho
    refine ⟨fun hlen => ?_, fun err herr => absurd (hcompile.symm.trans herr) (by simp)⟩
    exact iff_of_true ((isEligible_iff hbody.tokenize).mpr ⟨hlen, ho⟩) ⟨text, hcompile⟩
  · obtain ⟨err, hcompile, hrefusal⟩ := hbody.compile_of_some ho
    refine ⟨fun _ => iff_of_false ?_ ?_, fun err' herr' => ?_⟩
    · exact fun h => ho ((isEligible_iff hbody.tokenize).mp h).2
    · rintro ⟨text, htext⟩
      cases hcompile.symm.trans htext
    · cases hcompile.symm.trans herr'
      exact hrefusal

/-- A parameter with the name of a native function, which is called and passed on. -/
theorem isEligible_iff_compiles_length :
    ∃ f, Lambda.parse "length => length(length.tags) > 2 && toupper(length) != 'A'" = .ok f ∧
      f.params.length = 1 ∧ (isEligible f = true ↔ ∃ text, compile f = .ok text) ∧
        ∀ err, compile f = .error err → err.isRefusal = true := by
  obtain ⟨f, hparse, hlen⟩ : ∃ f,
      Lambda.parse "length => length(length.tags) > 2 && toupper(length) != 'A'" = .ok f ∧
        f.params.length = 1 := by decide +kernel
  obtain ⟨hiff, hrefusal⟩ := isEligible_iff_compiles hparse
  exact ⟨f, hparse, hlen, hiff hlen, hrefusal⟩

end RowQuery.PushDown
