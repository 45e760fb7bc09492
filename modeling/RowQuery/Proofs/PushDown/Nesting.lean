import RowQuery.Proofs.Failure
import RowQuery.Proofs.PushDown.Emission

/-!
# Parentheses in the pieces and in their text

Two passes count parentheses, each for itself: the first gives every piece its depth, the second keeps a stack
of what the open parentheses were opened for. They agree on every list of pieces that the first pass returns
(`emit_nested`), also on those of a lambda that was never parsed. `Nested` is what the first pass guarantees;
by it the stack is as high as the depth of the piece that was passed last (`Nested.trackAll_append`), and what
lies on the stack can be read off the pieces (`openedAt`). A separator outside of a call is all that can go wrong.
-/

namespace RowQuery.PushDown

open Lambda

variable {f : Lambda} {depth : Nat} {before : Option Role} {t : Lambda.Token}
  {ts behind : List Lambda.Token} {s : Segment} {pieces done passed rest : List Segment}
  {opened : List Opened}

/-! ## Depths -/

/-- Pieces with `depth` open parentheses in front of them. Each carries the number of those that are open
behind it, all are closed at the end, and a parenthesis stands behind every function. -/
inductive Nested : Nat → List Segment → Prop where
  | nil : Nested 0 []
  | opening {depth : Nat} {s : Segment} {rest : List Segment} (hs : s.role = .opening)
      (hdepth : s.depth = depth + 1) (h : Nested s.depth rest) : Nested depth (s :: rest)
  | closing {depth : Nat} {s : Segment} {rest : List Segment} (hs : s.role = .closing)
      (hdepth : depth = s.depth + 1) (h : Nested s.depth rest) : Nested depth (s :: rest)
  | function {depth : Nat} {s : Segment} {rest : List Segment} (hs : s.role = .function)
      (hdepth : s.depth = depth) (hrest : rest.head?.map (·.role) = some .opening)
      (h : Nested s.depth rest) : Nested depth (s :: rest)
  | argument {depth : Nat} {s : Segment} {rest : List Segment} (hs : s.role = .argument)
      (hdepth : s.depth = depth) (h : Nested s.depth rest) : Nested depth (s :: rest)
  | plain {depth : Nat} {s : Segment} {rest : List Segment} (hs : s.role.isPlain = true)
      (hdepth : s.depth = depth) (h : Nested s.depth rest) : Nested depth (s :: rest)

theorem piece_role {role : Role} {text : String} (h : piece? before t = some (role, text)) :
    role = .argument ∨ role.isPlain = true := by
  cases t with
  | minus =>
    simp only [piece?] at h
    split at h <;> cases h <;> exact .inr rfl
  | comma => cases h; exact .inl rfl
  | _ => cases h <;> exact .inr rfl

/-- What one piece does to the depth. -/
theorem nextSegment_depth (h : nextSegment f depth before t ts = .ok (s, behind)) :
    s.role = .opening ∧ s.depth = depth + 1 ∨ s.role = .closing ∧ depth = s.depth + 1 ∨
      s.role = .function ∧ s.depth = depth ∧ behind.head? = some .lparen ∨
      (s.role = .argument ∨ s.role.isPlain = true) ∧ s.depth = depth := by
  unfold nextSegment at h
  split at h
  next name =>
    split at h
    next =>
      obtain ⟨⟨property, rest⟩, -, h⟩ := bind_eq_ok.mp h
      cases h
      exact .inr (.inr (.inr ⟨.inr rfl, rfl⟩))
    next =>
      obtain ⟨⟨role, text⟩, hname, h⟩ := bind_eq_ok.mp h
      cases h
      unfold namePiece at hname
      split at hname
      next hparen =>
        split at hname
        next => cases hname
        next =>
          split at hname
          next => cases hname; exact .inr (.inr (.inl ⟨rfl, rfl, hparen⟩))
          next => cases hname
      next =>
        split at hname
        next => cases hname
        next => cases hname; exact .inr (.inr (.inr ⟨.inr rfl, rfl⟩))
  next => cases h
  next => cases h; exact .inl ⟨rfl, rfl⟩
  next =>
    split at h
    next => cases h
    next => cases h; exact .inr (.inl ⟨rfl, rfl⟩)
  next =>
    split at h
    next hpiece => cases h; exact .inr (.inr (.inr ⟨piece_role hpiece, rfl⟩))
    next => cases h

theorem segmentsFrom_cons_eq_ok (h : segmentsFrom f depth before (t :: ts) = .ok pieces) :
    ∃ s behind tail, nextSegment f depth before t ts = .ok (s, behind) ∧ pieces = s :: tail := by
  rw [segmentsFrom_cons] at h
  split at h
  next => cases h
  next s behind hnext =>
    obtain ⟨tail, -, rfl⟩ := map_eq_ok.mp h
    exact ⟨s, behind, tail, hnext, rfl⟩

theorem head_of_lparen (h : segmentsFrom f depth before ts = .ok pieces)
    (hts : ts.head? = some .lparen) : pieces.head?.map (·.role) = some .opening := by
  obtain ⟨rest, rfl⟩ := List.head?_eq_some_iff.mp hts
  obtain ⟨s, behind, tail, hnext, rfl⟩ := segmentsFrom_cons_eq_ok h
  cases hnext
  rfl

theorem nested_of_segmentsFrom (h : segmentsFrom f depth before ts = .ok pieces) :
    Nested depth pieces := by
  fun_induction segmentsFrom f depth before ts generalizing pieces with
  | case1 => cases h; exact .nil
  | case2 => cases h
  | case3 => cases h
  | case4 depth before t ts s behind hnext ih =>
    obtain ⟨pieces, hpieces, rfl⟩ := map_eq_ok.mp h
    have hnested := ih hpieces
    obtain ⟨hs, hd⟩ | ⟨hs, hd⟩ | ⟨hs, hd, hparen⟩ | ⟨hs | hs, hd⟩ := nextSegment_depth hnext
    · exact .opening hs hd hnested
    · exact .closing hs hd hnested
    · exact .function hs hd (head_of_lparen hpieces hparen) hnested
    · exact .argument hs hd hnested
    · exact .plain hs hd hnested

theorem segments_nested (h : segments f = .ok pieces) : Nested 0 pieces ∧ pieces ≠ [] := by
  unfold segments at h
  split at h
  next => cases h
  next tokens _ =>
    split at h
    next => cases h
    next hne =>
      refine ⟨nested_of_segmentsFrom h, ?_⟩
      obtain ⟨t, ts, htokens⟩ := List.exists_cons_of_ne_nil hne
      rw [htokens] at h
      obtain ⟨s, behind, tail, -, rfl⟩ := segmentsFrom_cons_eq_ok h
      exact List.cons_ne_nil s tail

theorem plain_ne (hs : s.role.isPlain = true) :
    s.role ≠ .opening ∧ s.role ≠ .closing ∧ s.role ≠ .argument := by
  refine ⟨?_, ?_, ?_⟩
  all_goals
    intro hrole
    rw [hrole] at hs
    cases hs

/-- What one piece adds to the depth. -/
theorem Nested.head (h : Nested depth (s :: rest)) :
    Nested s.depth rest ∧
      depth + [s].countP (·.role = .opening) = [s].countP (·.role = .closing) + s.depth := by
  simp only [List.countP_singleton, decide_eq_true_eq]
  cases h with
  | opening hs hdepth h => exact ⟨h, by simp [hs, hdepth]⟩
  | closing hs hdepth h => exact ⟨h, by simp [hs, hdepth, Nat.add_comm]⟩
  | function hs hdepth _ h => exact ⟨h, by simp [hs, hdepth]⟩
  | argument hs hdepth h => exact ⟨h, by simp [hs, hdepth]⟩
  | plain hs hdepth h => exact ⟨h, by simp [plain_ne hs, hdepth]⟩

/-- The depth of a piece is the number of parentheses opened up to it, less those closed. -/
theorem Nested.count (h : Nested depth (passed ++ s :: rest)) :
    depth + (passed ++ [s]).countP (·.role = .opening) =
      (passed ++ [s]).countP (·.role = .closing) + s.depth := by
  induction passed generalizing depth with
  | nil => exact h.head.2
  | cons p passed ih =>
    obtain ⟨htail, hhead⟩ := Nested.head h
    have hcount := ih htail
    rw [List.cons_append, List.countP_cons, List.countP_cons]
    simp only [List.countP_singleton] at hhead
    omega

theorem getLast_depth_cons (s : Segment) (passed : List Segment) (depth : Nat) :
    ((s :: passed).getLast?.map (·.depth)).getD depth = (passed.getLast?.map (·.depth)).getD s.depth := by
  rw [List.getLast?_cons]
  cases passed.getLast? <;> rfl

/-- No parenthesis is open behind the last piece. -/
theorem Nested.last (h : Nested depth pieces) : (pieces.getLast?.map (·.depth)).getD depth = 0 := by
  induction pieces generalizing depth with
  | nil => cases h; rfl
  | cons s pieces ih =>
    rw [getLast_depth_cons]
    exact ih h.head.1

/-! ## The stack -/

/-- Effect of the pieces `passed` on the open parentheses, with `rest` behind them. -/
def trackAll (opened : List Opened) (before : Option Role) :
    (passed rest : List Segment) → Except CompileError (List Opened)
  | [], _ => .ok opened
  | s :: passed, rest => do
    let opened ← track opened before s (passed ++ rest)
    trackAll opened (some s.role) passed rest

def textOf (pieces : List Segment) : String :=
  String.join (pieces.map (·.text))

/-- Emission passes over pieces with their effect on the stack, and then goes on from there. -/
theorem emitFrom_append (passed rest : List Segment) (opened : List Opened) (before : Option Role) :
    emitFrom opened before (passed ++ rest) = do
      let opened ← trackAll opened before passed rest
      let tail ← emitFrom opened ((passed.getLast?.map (·.role)).or before) rest
      return textOf passed ++ tail := by
  induction passed generalizing opened before with
  | nil =>
    show emitFrom opened before rest = emitFrom opened before rest >>= _
    cases emitFrom opened before rest with
    | error e => rfl
    | ok text => simp [textOf]
  | cons s passed ih =>
    have hrole : ((s :: passed).getLast?.map (·.role)).or before =
        (passed.getLast?.map (·.role)).or (some s.role) := by
      rw [List.getLast?_cons]
      cases passed.getLast? <;> rfl
    rw [List.cons_append, emitFrom, trackAll, hrole]
    cases track opened before s (passed ++ rest) with
    | error e => rfl
    | ok opened =>
      rw [ok_bind, ok_bind, ih]
      simp only [bind_assoc, pure_bind, textOf, List.map_cons, String.join_cons, String.append_assoc]

/-- What the nearest parenthesis was opened for that opens the depth `depth`; of the pieces in front the
nearest comes first. -/
def openedAt (depth : Nat) : List Segment → Option Opened
  | [] => none
  | s :: front =>
    if s.role = .opening ∧ s.depth = depth then
      some (if front.head?.map (·.role) = some .function then .call else .group)
    else openedAt depth front

/-- Whether every separator stands directly inside a call, behind the pieces `front`, the nearest first. -/
def separated (front : List Segment) : List Segment → Bool
  | [] => true
  | s :: rest =>
    (s.role ≠ .argument || openedAt s.depth front = some .call) && separated (s :: front) rest

/-- The stack has what the pieces in front say about each depth, and they open no depth 0. -/
def ReadOff (front : List Segment) : List Opened → Prop
  | [] => openedAt 0 front = none
  | frame :: opened => openedAt (opened.length + 1) front = some frame ∧ ReadOff front opened

theorem ReadOff.top (h : ReadOff done opened) : opened.head? = openedAt opened.length done := by
  cases opened with
  | nil => exact h.symm
  | cons frame opened => exact h.1.symm

/-- A piece that opens no depth of the stack leaves what is said about them. -/
theorem ReadOff.cons (h : ReadOff done opened) (hs : s.role = .opening → opened.length < s.depth) :
    ReadOff (s :: done) opened := by
  have hkeep : ∀ d ≤ opened.length, openedAt d (s :: done) = openedAt d done := by
    intro d hd
    rw [openedAt, if_neg]
    rintro ⟨hrole, rfl⟩
    have := hs hrole
    omega
  induction opened with
  | nil => exact (hkeep 0 le_rfl).trans h
  | cons frame opened ih =>
    simp only [List.length_cons] at hs hkeep
    exact ⟨(hkeep _ le_rfl).trans h.1,
      ih h.2 (fun hrole => by have := hs hrole; omega) fun d hd => hkeep d (by omega)⟩

theorem track_plain (hs : s.role.isPlain = true) (opened : List Opened) (before : Option Role)
    (rest : List Segment) : track opened before s rest = .ok opened := by
  obtain ⟨role, text, depth⟩ := s
  cases role <;> first | rfl | cases hs

/-- What emission does with one piece: the stack becomes as high as the piece is deep, or the piece is a
separator outside of a call. -/
theorem Nested.track_cons (h : Nested depth (s :: rest)) (hopened : opened.length = depth)
    (hread : ReadOff done opened) :
    (s.role = .argument → openedAt s.depth done = some .call) ∧
        (∃ opened', track opened (done.head?.map (·.role)) s rest = .ok opened' ∧
          opened'.length = s.depth ∧ ReadOff (s :: done) opened') ∨
      (s.role = .argument ∧ openedAt s.depth done ≠ some .call) ∧
        track opened (done.head?.map (·.role)) s rest = .error .straySeparator := by
  cases h with
  | opening hs hdepth h =>
    rw [← hopened] at hdepth
    let frame : Opened := if done.head?.map (·.role) = some .function then .call else .group
    refine .inl ⟨fun harg => absurd harg (hs.trans_ne (by decide)), frame :: opened, ?_, hdepth.symm,
      ?_, ?_⟩
    · simp only [track, hs, List.length_cons, hdepth, if_true]
      rfl
    · rw [openedAt, if_pos ⟨hs, hdepth⟩]
    · exact hread.cons fun _ => by omega
  | closing hs hdepth h =>
    obtain ⟨frame, opened, rfl⟩ := List.exists_cons_of_length_eq_add_one (hopened.trans hdepth)
    have hlength : opened.length = s.depth := Nat.succ.inj (hopened.trans hdepth)
    refine .inl ⟨fun harg => absurd harg (hs.trans_ne (by decide)), opened, ?_, hlength, ?_⟩
    · simp only [track, hs, hlength, if_true]
    · exact hread.2.cons fun hopening => absurd hopening (hs.trans_ne (by decide))
  | function hs hdepth hrest h =>
    refine .inl ⟨fun harg => absurd harg (hs.trans_ne (by decide)), opened, ?_,
      hopened.trans hdepth.symm, ?_⟩
    · simp only [track, hs, hrest, if_true]
    · exact hread.cons fun hopening => absurd hopening (hs.trans_ne (by decide))
  | argument hs hdepth h =>
    have hstack : ReadOff (s :: done) opened :=
      hread.cons fun hopening => absurd hopening (hs.trans_ne (by decide))
    rw [hdepth, ← hopened, ← hread.top]
    by_cases hcall : opened.head? = some .call
    · refine .inl ⟨fun _ => hcall, opened, ?_, rfl, hstack⟩
      simp only [track, hs, hcall, if_true]
    · refine .inr ⟨⟨hs, hcall⟩, ?_⟩
      simp only [track, hs, if_neg hcall]
  | plain hs hdepth h =>
    obtain ⟨hopening, -, hargument⟩ := plain_ne hs
    exact .inl ⟨fun harg => absurd harg hargument, opened, track_plain hs _ _ _, hopened.trans hdepth.symm,
      hread.cons fun hrole => absurd hrole hopening⟩

/-- What emission does with all pieces up to some place. -/
theorem Nested.trackAll_append (h : Nested depth (passed ++ rest)) (hopened : opened.length = depth)
    (hread : ReadOff done opened) :
    separated done passed = true ∧
        (∃ opened', trackAll opened (done.head?.map (·.role)) passed rest = .ok opened' ∧
          opened'.length = (passed.getLast?.map (·.depth)).getD opened.length) ∨
      separated done passed = false ∧
        trackAll opened (done.head?.map (·.role)) passed rest = .error .straySeparator := by
  induction passed generalizing depth opened done with
  | nil => exact .inl ⟨rfl, opened, rfl, rfl⟩
  | cons s passed ih =>
    rw [List.cons_append] at h
    rw [trackAll]
    obtain ⟨hcall, opened', htrack, hlength, hread'⟩ | ⟨⟨hrole, hcall⟩, htrack⟩ :=
      h.track_cons hopened hread
    · have hsep : separated done (s :: passed) = separated (s :: done) passed := by
        rw [separated]
        by_cases harg : s.role = .argument
        · simp [hcall harg]
        · simp [harg]
      rw [htrack, ok_bind, hsep, getLast_depth_cons, ← hlength]
      exact ih h.head.1 hlength hread'
    · refine .inr ⟨by simp [separated, hrole, hcall], ?_⟩
      rw [htrack]
      rfl

theorem Nested.tracked (h : Nested 0 (passed ++ rest)) :
    separated [] passed = true ∧
        (∃ opened, trackAll [] none passed rest = .ok opened ∧
          opened.length = (passed.getLast?.map (·.depth)).getD 0) ∨
      separated [] passed = false ∧ trackAll [] none passed rest = .error .straySeparator :=
  h.trackAll_append rfl rfl

theorem Nested.emit_eq (h : Nested 0 pieces) :
    emit pieces = if separated [] pieces then .ok (textOf pieces) else .error .straySeparator := by
  have hnested : Nested 0 (pieces ++ []) := (List.append_nil pieces).symm ▸ h
  have happend := emitFrom_append pieces [] [] none
  rw [List.append_nil] at happend
  rw [emit, happend]
  obtain ⟨hsep, opened, htrack, hlength⟩ | ⟨hsep, htrack⟩ := hnested.tracked
  · obtain rfl : opened = [] := List.eq_nil_of_length_eq_zero (hlength.trans h.last)
    rw [htrack, ok_bind, hsep, if_pos rfl]
    simp [emitFrom]
  · rw [htrack, hsep]
    rfl

/-- **Depths and stack stay in step.** Take the pieces of any lambda. The depth of each is the number of
parentheses opened up to it, less those closed, and none is open at the end. Emission gets past a piece if
every separator so far stands directly in a call; its stack is then exactly as high as the piece is deep, and
it goes on with that stack. If it gets past all of them, the texts stand one behind the other; a separator
outside of a call is the one thing that stops it. -/
theorem emit_nested {f : Lambda} {pieces : List Segment} (h : segments f = .ok pieces) :
    (∀ passed s rest, pieces = passed ++ s :: rest →
      (passed ++ [s]).countP (·.role = .opening) = (passed ++ [s]).countP (·.role = .closing) + s.depth ∧
      (separated [] (passed ++ [s]) = true ∧
          (∃ opened, trackAll [] none (passed ++ [s]) rest = .ok opened ∧ opened.length = s.depth ∧
            emit pieces = do
              let tail ← emitFrom opened (some s.role) rest
              return textOf (passed ++ [s]) ++ tail) ∨
        separated [] (passed ++ [s]) = false ∧
          trackAll [] none (passed ++ [s]) rest = .error .straySeparator)) ∧
    (∃ s, pieces.getLast? = some s ∧ s.depth = 0) ∧
    emit pieces = if separated [] pieces then .ok (textOf pieces) else .error .straySeparator := by
  obtain ⟨hnested, hne⟩ := segments_nested h
  refine ⟨?_, ?_, hnested.emit_eq⟩
  · rintro passed s rest rfl
    have hcount := hnested.count
    rw [Nat.zero_add] at hcount
    have hsplit : passed ++ s :: rest = passed ++ [s] ++ rest := by simp
    rw [hsplit] at hnested
    obtain ⟨hsep, opened, htrack, hlength⟩ | hfail := hnested.tracked
    · rw [List.getLast?_concat] at hlength
      refine ⟨hcount, .inl ⟨hsep, opened, htrack, hlength, ?_⟩⟩
      rw [emit, hsplit, emitFrom_append, htrack, ok_bind, List.getLast?_concat]
      rfl
    · exact ⟨hcount, .inr hfail⟩
  · have hlast := hnested.last
    rw [List.getLast?_eq_some_getLast hne] at hlast
    exact ⟨_, List.getLast?_eq_some_getLast hne, hlast⟩

/-- The text of a lambda that was never parsed: a separator in a call, and one in a group inside the call. -/
theorem emit_nested_stray :
    let pieces : List Segment :=
      [⟨.function, "startswith", 0⟩, ⟨.opening, "(", 1⟩, ⟨.constant, "a", 1⟩, ⟨.argument, ", ", 1⟩,
        ⟨.opening, "(", 2⟩, ⟨.constant, "b", 2⟩, ⟨.argument, ", ", 2⟩, ⟨.constant, "c", 2⟩,
        ⟨.closing, ")", 1⟩, ⟨.closing, ")", 0⟩]
    segments (Lambda.identity "startswith(a, (b, c))") = .ok pieces ∧
      (pieces.take 5).countP (·.role = .opening) = (pieces.take 5).countP (·.role = .closing) + 2 ∧
      (∃ s, pieces.getLast? = some s ∧ s.depth = 0) ∧ emit pieces = .error .straySeparator := by
  intro pieces
  have hpieces : segments (Lambda.identity "startswith(a, (b, c))") = .ok pieces := by decide +kernel
  obtain ⟨hsteps, hlast, hemit⟩ := emit_nested hpieces
  refine ⟨hpieces, (hsteps (pieces.take 4) ⟨.opening, "(", 2⟩ (pieces.drop 5) rfl).1, hlast, ?_⟩
  rw [hemit]
  rfl

end RowQuery.PushDown
