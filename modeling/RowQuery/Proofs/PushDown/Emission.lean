import RowQuery.Proofs.Failure
import RowQuery.Proofs.Filter.Spelling
import RowQuery.Proofs.Number.ReadBack
import RowQuery.Proofs.PushDown.Carried

/-!
# Compiling a predicate

`segmentsFrom` and `emitFrom` succeed on the tokens of every run that `Carries` describes, and the text
that they put together spells the tokens of the filter (`Carries.emits`). The open parentheses that the
two keep track of are the groups and calls on the reader's stack, and whether an operand is awaited is
the reader's mode.
-/

namespace RowQuery.PushDown

open RowQuery.Filter (Delimited Spells)
open Lambda

variable {f : Lambda} {stack stack' : Stack} {mode : Mode} {opened : List Opened}
  {before : Option Role} {t : Lambda.Token} {ts rest : List Lambda.Token} {ws : List Filter.Token}
  {r e : Expr} {text : String} {behind : List Char}

/-! ## Texts of pieces -/

theorem toList_spaced (s : String) : (spaced s).toList = ' ' :: (s.toList ++ [' ']) := by
  simp [spaced]

theorem delimited_blank (rest : List Char) : Delimited (' ' :: rest) := by
  intro c hc
  cases hc
  decide

theorem isBlank_space : Text.isBlank ' ' = true := by decide

/-- A word between two blanks. -/
theorem spells_spaced_word {name : String} (hname : IsName name.toList) (h : Spells behind ws) :
    Spells ((spaced name).toList ++ behind) (.word name :: ws) := by
  have htext : (spaced name).toList ++ behind = ' ' :: (name.toList ++ ' ' :: behind) := by
    simp [toList_spaced]
  rw [htext]
  have := Filter.spells_word hname (delimited_blank behind) (Filter.spells_blank isBlank_space h)
  rw [String.ofList_toList] at this
  exact Filter.spells_blank isBlank_space this

/-- A sign between two blanks. -/
theorem spells_spaced_sign {c : Char} {w : Filter.Token} (hc : Filter.symbol? c = some w)
    (h : Spells behind ws) : Spells ((spaced c.toString).toList ++ behind) (w :: ws) := by
  have htext : (spaced c.toString).toList ++ behind = ' ' :: c :: ' ' :: behind := by
    simp [toList_spaced, Char.toString]
  rw [htext]
  exact Filter.spells_blank isBlank_space
    (Filter.spells_symbol hc (Filter.spells_blank isBlank_space h))

theorem isName_relation (op : Filter.Relation) : IsName op.word.toList := by
  cases op <;> exact isName_cons (by decide) (by decide)

theorem isName_connective (op : Connective) : IsName (Filter.connectiveWord op).toList := by
  cases op <;> exact isName_cons (by decide) (by decide)

/-- Whether a piece with the role opens and closes nothing and stands for itself. -/
def Role.isPlain : Role → Bool
  | .function | .opening | .closing | .argument => false
  | _ => true

/-- A binary operator is written between blanks and awaits an operand. -/
theorem piece_binary {op : BinaryOp} (ht : t.binaryOp? = some op)
    (hbefore : before.all Role.awaitsOperand = false) :
    ∃ role text, piece? before t = some (role, text) ∧ role.awaitsOperand = true ∧
      role.isPlain = true ∧ (∀ behind, Delimited (text.toList ++ behind)) ∧
      ∀ behind ws, Spells behind ws → Spells (text.toList ++ behind) (binaryToken op :: ws) := by
  have hspaced : ∀ s behind, Delimited ((spaced s).toList ++ behind) := fun s behind => by
    rw [toList_spaced]
    exact delimited_blank _
  cases t with
  | comparison op =>
    cases ht
    exact ⟨_, _, rfl, rfl, rfl, hspaced _, fun _ _ => spells_spaced_word (isName_relation _)⟩
  | connective op spelling =>
    cases ht
    exact ⟨_, _, rfl, rfl, rfl, hspaced _, fun _ _ => spells_spaced_word (isName_connective _)⟩
  | minus =>
    cases ht
    refine ⟨.arithmetic, _, ?_, rfl, rfl, hspaced "-", fun _ _ =>
      spells_spaced_sign (c := '-') rfl⟩
    simp only [piece?, hbefore]
    rfl
  | plus =>
    cases ht
    exact ⟨_, _, rfl, rfl, rfl, hspaced _, fun _ _ => spells_spaced_sign (c := '+') rfl⟩
  | star =>
    cases ht
    exact ⟨_, _, rfl, rfl, rfl, hspaced _, fun _ _ => spells_spaced_sign (c := '*') rfl⟩
  | slash =>
    cases ht
    exact ⟨_, _, rfl, rfl, rfl, hspaced _, fun _ _ => spells_spaced_sign (c := '/') rfl⟩
  | percent =>
    cases ht
    exact ⟨_, _, rfl, rfl, rfl, hspaced _, fun _ _ => spells_spaced_sign (c := '%') rfl⟩
  | _ => cases ht

/-- A unary operator is written in front of its operand, which it awaits. -/
theorem piece_unary {op : UnaryOp} (ht : t.unaryOp? = some op)
    (hbefore : before.all Role.awaitsOperand = true) :
    ∃ text, piece? before t = some (.unary, text) ∧
      ∀ behind ws, Spells behind ws → Spells (text.toList ++ behind) (unaryToken op :: ws) := by
  cases t with
  | bang =>
    cases ht
    refine ⟨_, rfl, fun behind ws h => ?_⟩
    have hname : IsName "not".toList := isName_cons (by decide) (by decide)
    exact Filter.spells_word hname (delimited_blank behind) (Filter.spells_blank isBlank_space h)
  | minus =>
    cases ht
    refine ⟨"-", ?_, fun behind ws h => Filter.spells_symbol rfl h⟩
    simp only [piece?, hbefore, if_true]
  | _ => cases ht

theorem spells_infinite {x : Float} (hx : Number.decode x = .infinite false)
    (hb : Delimited behind) (h : Spells behind ws) :
    Spells ((Number.Layout.tagged.write x).toList ++ behind)
      (.word (Number.Layout.tagged.write x) :: ws) := by
  have htext : Number.Layout.tagged.write x = "inf" := by
    simp [Number.Layout.write, Number.Layout.chars, hx]
  have hname : IsName "inf".toList := isName_cons (by decide) (by decide)
  rw [htext]
  exact Filter.spells_word hname hb h

/-- A literal is written as it reads. -/
theorem piece_literal (before : Option Role) {lit : Expr} (ht : t.literal? = some lit) (hl : t.Lexical) :
    ∃ text, piece? before t = some (.literal, text) ∧
      ∀ behind ws, Delimited behind → Spells behind ws →
        Spells (text.toList ++ behind) (literalToken t :: ws) := by
  cases t with
  | float x =>
    refine ⟨_, rfl, fun behind ws hb h => ?_⟩
    rcases Token.Lexical.float hl with hx | ⟨coef, exp, hx⟩
    · have hinf : Number.isFinite x = false := by simp [Number.isFinite, hx]
      simp only [literalToken, hinf, Bool.false_eq_true, if_false]
      exact spells_infinite hx hb h
    · have hfin : Number.isFinite x = true := by simp [Number.isFinite, hx]
      obtain ⟨w, hw, hmarked, htext, hread⟩ := Number.float_tagged hx
      simp only [literalToken, hfin, if_true, Number.Layout.write, String.toList_ofList, htext]
      exact Filter.spells_float hw hmarked hread hb h
  | int n => exact ⟨_, rfl, fun _ _ hb h => Filter.spells_int hl hb h⟩
  | str s =>
    refine ⟨_, rfl, fun behind ws hb h => Filter.spells_quote s (fun hq => ?_) h⟩
    exact absurd (hb _ hq) (by decide)
  | bool b =>
    have hname : IsName (if b then "true" else "false").toList := by
      cases b <;> exact isName_cons (by decide) (by decide)
    refine ⟨_, rfl, fun behind ws hb h => ?_⟩
    have := Filter.spells_word hname hb h
    rwa [String.ofList_toList] at this
  | null =>
    have hname : IsName "null".toList := isName_cons (by decide) (by decide)
    exact ⟨_, rfl, fun _ _ hb h => Filter.spells_word hname hb h⟩
  | _ => cases ht

/-! ## Pieces one behind the other -/

/-- The tokens become the text, behind a piece with the role `before` and inside the open
parentheses. -/
def Emits (f : Lambda) (opened : List Opened) (before : Option Role) (ts : List Lambda.Token)
    (text : String) : Prop :=
  ∃ pieces, segmentsFrom f opened.length before ts = .ok pieces ∧
    emitFrom opened before pieces = .ok text

theorem segmentsFrom_cons (f : Lambda) (depth : Nat) (before : Option Role) (t : Lambda.Token)
    (rest : List Lambda.Token) :
    segmentsFrom f depth before (t :: rest) =
      match nextSegment f depth before t rest with
      | .error e => .error e
      | .ok (s, rest) => (segmentsFrom f s.depth (some s.role) rest).map (s :: ·) := by
  rw [segmentsFrom]
  split
  next h => rw [h]
  next h => rw [h]

theorem emits_nil : Emits f [] before [] "" := by
  refine ⟨[], ?_, rfl⟩
  rw [segmentsFrom]
  rfl

theorem emits_cons (s : Segment) (rest' : List Lambda.Token) {opened' : List Opened}
    (hnext : nextSegment f opened.length before t rest = .ok (s, rest'))
    (htrack : ∀ pieces, segmentsFrom f opened'.length (some s.role) rest' = .ok pieces →
      track opened before s pieces = .ok opened')
    (hdepth : s.depth = opened'.length) (h : Emits f opened' (some s.role) rest' text) :
    Emits f opened before (t :: rest) (s.text ++ text) := by
  obtain ⟨pieces, hpieces, htext⟩ := h
  refine ⟨s :: pieces, ?_, ?_⟩
  · rw [segmentsFrom_cons, hnext]
    dsimp only
    rw [hdepth, hpieces]
    rfl
  · rw [emitFrom, htrack pieces hpieces]
    show (do
      let tail ← emitFrom opened' (some s.role) pieces
      return s.text ++ tail) = _
    rw [htext]
    rfl

/-- A token that stands for itself. -/
theorem nextSegment_of_piece {role : Role} {piece : String}
    (hpiece : piece? before t = some (role, piece)) (depth : Nat) :
    nextSegment f depth before t rest = .ok (⟨role, piece, depth⟩, rest) := by
  unfold nextSegment
  split
  next => cases hpiece
  next => cases hpiece
  next => cases hpiece
  next => cases hpiece
  next => simp only [hpiece]

/-- A piece that opens and closes nothing. -/
theorem emits_plain {role : Role} {piece : String} (hpiece : piece? before t = some (role, piece))
    (hrole : role.isPlain = true) (h : Emits f opened (some role) rest text) :
    Emits f opened before (t :: rest) (piece ++ text) := by
  refine emits_cons ⟨role, piece, opened.length⟩ rest (nextSegment_of_piece hpiece _)
    (fun pieces _ => ?_) rfl h
  cases role <;> first | rfl | cases hrole

/-- One property of a parameter. -/
theorem nextSegment_property {p x : String} (hp : f.binds p = true) (hrest : rest.head? ≠ some .dot)
    (depth : Nat) (before : Option Role) :
    nextSegment f depth before (.ident p) (.dot :: .ident x :: rest) =
      if Filter.isReserved x then .error (.reservedName x) else .ok (⟨.property, x, depth⟩, rest) := by
  have hproperty : paramProperty p (.dot :: .ident x :: rest) =
      if Filter.isReserved x then .error (.reservedName x) else .ok (x, rest) := by
    simp only [paramProperty]
    split
    next => exact absurd rfl hrest
    next => rfl
  simp only [nextSegment, hp, if_true, hproperty]
  cases Filter.isReserved x <;> rfl

/-- A name that stands for a property itself. -/
theorem nextSegment_name {name : String} (hn : f.binds name = false)
    (hrest : rest.head? ≠ some .lparen) (depth : Nat) (before : Option Role) :
    nextSegment f depth before (.ident name) rest =
      if Filter.isReserved name then .error (.reservedName name)
      else .ok (⟨.constant, name, depth⟩, rest) := by
  simp only [nextSegment, hn, namePiece, if_neg hrest]
  cases Filter.isReserved name <;> rfl

theorem nextSegment_call {name : String} (hn : f.binds name = false) (depth : Nat)
    (before : Option Role) (rest : List Lambda.Token) :
    nextSegment f depth before (.ident name) (.lparen :: rest) =
      if Builtin.isLocal name then .error (.localFunction name)
      else if Builtin.isNative name then .ok (⟨.function, name, depth⟩, .lparen :: rest)
      else .error (.unsupportedFunction name) := by
  simp only [nextSegment, hn, namePiece, List.head?_cons, if_true]
  cases Builtin.isLocal name <;> cases Builtin.isNative name <;> rfl

theorem emits_property {p x : String} (hp : f.binds p = true) (hx : Filter.isReserved x = false)
    (hrest : rest.head? ≠ some .dot) (h : Emits f opened (some .property) rest text) :
    Emits f opened before (.ident p :: .dot :: .ident x :: rest) (x ++ text) := by
  refine emits_cons ⟨.property, x, opened.length⟩ rest ?_ (fun _ _ => rfl) rfl h
  rw [nextSegment_property hp hrest, hx]
  rfl

theorem emits_constant {name : String} (hn : f.binds name = false)
    (hx : Filter.isReserved name = false) (hrest : rest.head? ≠ some .lparen)
    (h : Emits f opened (some .constant) rest text) :
    Emits f opened before (.ident name :: rest) (name ++ text) := by
  refine emits_cons ⟨.constant, name, opened.length⟩ rest ?_ (fun _ _ => rfl) rfl h
  rw [nextSegment_name hn hrest, hx]
  rfl

theorem emits_closing {frame : Opened} (h : Emits f opened (some .closing) rest text) :
    Emits f (frame :: opened) before (.rparen :: rest) (")" ++ text) := by
  refine emits_cons ⟨.closing, ")", opened.length⟩ rest rfl (fun _ _ => ?_) rfl h
  simp [track]

theorem emits_group (hbefore : before ≠ some .function)
    (h : Emits f (.group :: opened) (some .opening) rest text) :
    Emits f opened before (.lparen :: rest) ("(" ++ text) := by
  refine emits_cons ⟨.opening, "(", opened.length + 1⟩ rest rfl (fun _ _ => ?_) rfl h
  simp [track, hbefore]

theorem emits_call {name : String} (hn : f.binds name = false)
    (hlocal : Builtin.isLocal name = false) (hnative : Builtin.isNative name = true)
    (h : Emits f (.call :: opened) (some .opening) rest text) :
    Emits f opened before (.ident name :: .lparen :: rest) (name ++ ("(" ++ text)) := by
  have hparen : Emits f opened (some .function) (.lparen :: rest) ("(" ++ text) := by
    refine emits_cons ⟨.opening, "(", opened.length + 1⟩ rest rfl (fun _ _ => ?_)
      rfl h
    simp [track]
  refine emits_cons ⟨.function, name, opened.length⟩ (.lparen :: rest) ?_
    (fun pieces hpieces => ?_) rfl hparen
  · rw [nextSegment_call hn, hlocal, hnative]
    rfl
  · rw [segmentsFrom_cons] at hpieces
    obtain ⟨tail, -, rfl⟩ := map_eq_ok.mp hpieces
    rfl

theorem emits_separator (h : Emits f (.call :: opened) (some .argument) rest text) :
    Emits f (.call :: opened) before (.comma :: rest) (", " ++ text) := by
  refine emits_cons ⟨.argument, ", ", (Opened.call :: opened).length⟩ rest rfl
    (fun _ _ => ?_) rfl h
  simp [track]

/-! ## Whole runs -/

/-- The parentheses that are open, the innermost first. -/
def openings (stack : Stack) : List Opened :=
  stack.filterMap fun
    | .group => some .group
    | .call _ _ => some .call
    | _ => none

theorem openings_reduce (level : Nat) (stack : Stack) (e : Expr) :
    openings (precedence.reduce level stack e).1 = openings stack := by
  obtain ⟨operators, hstack, hall⟩ := precedence.reduce_operators level stack e
  have hnone : openings operators = [] := by
    refine List.filterMap_eq_nil_iff.mpr fun frame hframe => ?_
    have := hall frame hframe
    cases frame <;> first | rfl | cases this
  conv_rhs => rw [hstack]
  rw [openings, openings, List.filterMap_append]
  exact (congrArg (· ++ _) hnone).symm

theorem openings_of_reduce {level : Nat}
    (h : precedence.reduce level stack e = (stack', r)) : openings stack = openings stack' := by
  rw [← openings_reduce level stack e, h]

theorem openings_of_await {op : BinaryOp} (h : precedence.await? op stack e = some stack') :
    openings stack' = openings stack := by
  obtain ⟨level, rfl⟩ := Precedence.await_eq_some h
  exact openings_reduce level stack e

/-- Whether an operand must come next. -/
def awaits : Mode → Bool
  | .operand | .argument => true
  | _ => false

theorem Carries.head_ne_dot (h : Carries f stack (.complete e) ts ws r) : ts.head? ≠ some .dot := by
  cases h with
  | binary ht hs h => rintro ⟨⟩; cases ht
  | closeGroup hs h => simp
  | closeCall hs h => simp
  | nextArgument hs h => simp
  | finish hs => simp

/-- A name is a word of the filter. -/
theorem spells_name {name : String} (hname : (Token.ident name).Lexical) (hb : Delimited behind)
    (h : Spells behind ws) : Spells (name.toList ++ behind) (.word name :: ws) := by
  have := Filter.spells_word hname hb h
  rwa [String.ofList_toList] at this

theorem delimited_cons {c : Char} (h : c ∈ [' ', '(', ')', ',']) (rest : List Char) :
    Delimited (c :: rest) := by
  intro d hd
  cases hd
  exact h

/-- **Compiling succeeds, and the text spells the filter.** -/
theorem Carries.emits (h : Carries f stack mode ts ws r) (hl : ∀ t ∈ ts, t.Lexical)
    (before : Option Role) (hb : before.all Role.awaitsOperand = awaits mode) :
    ∃ text, Emits f (openings stack) before ts text ∧ Spells text.toList ws ∧
      (awaits mode = false → Delimited text.toList) := by
  induction h generalizing before with
  | @literal stack ts ws r t lit ht h ih =>
    obtain ⟨text, hemits, hspells, hdel⟩ := ih (fun t ht => hl t (List.mem_cons_of_mem _ ht))
      (some .literal) rfl
    obtain ⟨piece, hpiece, hspell⟩ := piece_literal before ht (hl t List.mem_cons_self)
    refine ⟨piece ++ text, emits_plain hpiece rfl hemits, ?_, fun h => nomatch h⟩
    rw [String.toList_append]
    exact hspell _ _ (hdel rfl) hspells
  | @property stack ts ws r p x hp hx h ih =>
    obtain ⟨text, hemits, hspells, hdel⟩ := ih (fun t ht => hl t (by simp [ht]))
      (some .property) rfl
    refine ⟨x ++ text, emits_property hp hx h.head_ne_dot hemits, ?_, fun h => nomatch h⟩
    rw [String.toList_append]
    exact spells_name (hl (.ident x) (by simp)) (hdel rfl) hspells
  | @constant stack ts ws r name hn hx hts h ih =>
    obtain ⟨text, hemits, hspells, hdel⟩ := ih (fun t ht => hl t (List.mem_cons_of_mem _ ht))
      (some .constant) rfl
    refine ⟨name ++ text, emits_constant hn hx hts hemits, ?_, fun h => nomatch h⟩
    rw [String.toList_append]
    exact spells_name (hl (.ident name) List.mem_cons_self) (hdel rfl) hspells
  | @call stack ts ws r name hn hlocal hnative h ih =>
    obtain ⟨text, hemits, hspells, -⟩ := ih (fun t ht => hl t (by simp [ht]))
      (some .opening) rfl
    refine ⟨name ++ ("(" ++ text), emits_call hn hlocal hnative hemits, ?_, fun h => nomatch h⟩
    rw [String.toList_append, String.toList_append]
    exact spells_name (hl (.ident name) List.mem_cons_self) (delimited_cons (by decide) _)
      (Filter.spells_symbol rfl hspells)
  | group h ih =>
    obtain ⟨text, hemits, hspells, -⟩ := ih (fun t ht => hl t (List.mem_cons_of_mem _ ht))
      (some .opening) rfl
    refine ⟨"(" ++ text, emits_group ?_ hemits, ?_, fun h => nomatch h⟩
    · rintro rfl
      cases hb
    · rw [String.toList_append]
      exact Filter.spells_symbol rfl hspells
  | @unary stack ts ws r t op ht h ih =>
    obtain ⟨text, hemits, hspells, -⟩ := ih (fun t ht => hl t (List.mem_cons_of_mem _ ht))
      (some .unary) rfl
    obtain ⟨piece, hpiece, hspell⟩ := piece_unary ht hb
    refine ⟨piece ++ text, emits_plain hpiece rfl hemits, ?_, fun h => nomatch h⟩
    rw [String.toList_append]
    exact hspell _ _ hspells
  | noArgument h ih =>
    obtain ⟨text, hemits, hspells, -⟩ := ih (fun t ht => hl t (List.mem_cons_of_mem _ ht))
      (some .closing) rfl
    refine ⟨")" ++ text, emits_closing hemits, ?_, fun h => nomatch h⟩
    rw [String.toList_append]
    exact Filter.spells_symbol rfl hspells
  | argument h ih => exact ih hl before hb
  | @binary stack stack' ts ws r t op e ht hs h ih =>
    obtain ⟨role, piece, hpiece, hawaits, hplain, hdelimited, hspell⟩ := piece_binary ht hb
    obtain ⟨text, hemits, hspells, -⟩ := ih (fun t ht => hl t (List.mem_cons_of_mem _ ht))
      (some role) hawaits
    rw [openings_of_await hs] at hemits
    refine ⟨piece ++ text, emits_plain hpiece hplain hemits, ?_, fun _ => ?_⟩
    · rw [String.toList_append]
      exact hspell _ _ hspells
    · rw [String.toList_append]
      exact hdelimited _
  | closeGroup hs h ih =>
    obtain ⟨text, hemits, hspells, -⟩ := ih (fun t ht => hl t (List.mem_cons_of_mem _ ht))
      (some .closing) rfl
    rw [openings_of_reduce hs]
    refine ⟨")" ++ text, emits_closing hemits, ?_, fun _ => ?_⟩
    · rw [String.toList_append]
      exact Filter.spells_symbol rfl hspells
    · rw [String.toList_append]
      exact delimited_cons (by decide) _
  | closeCall hs h ih =>
    obtain ⟨text, hemits, hspells, -⟩ := ih (fun t ht => hl t (List.mem_cons_of_mem _ ht))
      (some .closing) rfl
    rw [openings_of_reduce hs]
    refine ⟨")" ++ text, emits_closing hemits, ?_, fun _ => ?_⟩
    · rw [String.toList_append]
      exact Filter.spells_symbol rfl hspells
    · rw [String.toList_append]
      exact delimited_cons (by decide) _
  | nextArgument hs h ih =>
    obtain ⟨text, hemits, hspells, -⟩ := ih (fun t ht => hl t (List.mem_cons_of_mem _ ht))
      (some .argument) rfl
    rw [openings_of_reduce hs]
    refine ⟨", " ++ text, emits_separator hemits, ?_, fun _ => ?_⟩
    · rw [String.toList_append]
      exact Filter.spells_symbol rfl (Filter.spells_blank isBlank_space hspells)
    · rw [String.toList_append]
      exact delimited_cons (by decide) _
  | @finish stack e r hs =>
    have hnone : openings stack = [] := openings_of_reduce hs
    refine ⟨"", ?_, Filter.spells_nil, fun _ c hc => nomatch hc⟩
    rw [hnone]
    exact emits_nil

end RowQuery.PushDown
