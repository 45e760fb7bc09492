import Mathlib
import RowQuery.Lambda.Eval
import RowQuery.Proofs.Lambda.Body
import RowQuery.Query.Clause

/-!
# Type checks

The expression that a type name stands for parses, whatever the name (`parse_checkedType`,
`parse_quotedName`): quotes and backslashes in the name stay inside the literal that it is written as. So
a query can be cut to any type, and the check answers for every value (`withType_says`).
-/

namespace RowQuery

open Lambda

/-! ## Quoted names -/

/-- Characters of a name as a string literal writes them. -/
def escaped (cs : List Char) : List Char :=
  cs.flatMap fun c => if c = '\x22' ∨ c = '\\' then ['\\', c] else [c]

theorem replaceChar_replaceChar (cs : List Char) :
    Text.replaceChar '\x22' ['\\', '\x22'] (Text.replaceChar '\\' ['\\', '\\'] cs) = escaped cs := by
  rw [Text.replaceChar, Text.replaceChar, List.flatMap_assoc, escaped]
  refine List.flatMap_congr fun c _ => ?_
  by_cases hslash : c = '\\'
  · subst hslash
    rfl
  by_cases hquote : c = '\x22'
  · subst hquote
    rfl
  · simp [hslash, hquote]

theorem quotedName_toList (name : String) :
    (Query.quotedName name).toList = '\x22' :: escaped name.toList ++ ['\x22'] := by
  rw [Query.quotedName, replaceChar_replaceChar, String.toList_ofList]

/-- A string literal with escapes is read as the characters that were escaped. -/
theorem stringBody_escaped (start : Nat) (behind cs : List Char) (offset : Nat) :
    ∃ stop, stringBody '\x22' start offset (escaped cs ++ '\x22' :: behind) =
      .ok (cs, stop, behind) := by
  induction cs generalizing offset with
  | nil =>
    refine ⟨offset + 1, ?_⟩
    cases behind <;> rfl
  | cons c cs ih =>
    have hmore : ∃ d more, escaped cs ++ '\x22' :: behind = d :: more :=
      List.exists_cons_of_ne_nil (by simp)
    obtain ⟨d, more, hmore⟩ := hmore
    by_cases hspecial : c = '\x22' ∨ c = '\\'
    · obtain ⟨stop, hstop⟩ := ih (offset + 2)
      have hcs : escaped (c :: cs) ++ '\x22' :: behind =
          '\\' :: c :: (escaped cs ++ '\x22' :: behind) := by
        simp [escaped, hspecial]
      refine ⟨stop, ?_⟩
      rw [hcs, stringBody]
      rcases hspecial with rfl | rfl
      all_goals
        simp only [unescape?, hstop]
        rfl
    · obtain ⟨stop, hstop⟩ := ih (offset + 1)
      have hcs : escaped (c :: cs) ++ '\x22' :: behind = c :: d :: more := by
        rw [← hmore]
        simp [escaped, hspecial]
      rw [not_or] at hspecial
      refine ⟨stop, ?_⟩
      rw [hcs, stringBody, if_neg hspecial.1, if_neg hspecial.2, ← hmore, hstop]
      rfl

/-! ## Expressions of type names -/

/-- The start of a type check: the function is applied to the parameter. -/
theorem lexes_check {word behind : List Char} {name : String} {ts : List Lambda.Token} {n : Nat}
    (hword : scan 0 'i' (word ++ '(' :: 'v' :: behind) = .ok ⟨.ident name, n, '(' :: 'v' :: behind⟩)
    (hv : scan 0 'v' behind = .ok ⟨.ident "v", 1, behind⟩) (h : Lexes behind ts) :
    Lexes ("v => i".toList ++ word ++ "(v".toList ++ behind)
      (.ident "v" :: .arrow :: .ident name :: .lparen :: .ident "v" :: ts) := by
  have hchars : "v => i".toList ++ word ++ "(v".toList ++ behind =
      'v' :: ' ' :: '=' :: '>' :: ' ' :: 'i' :: (word ++ '(' :: 'v' :: behind) := by
    simp
  rw [hchars]
  refine .token rfl (l := ⟨.ident "v", 1, _⟩) rfl (.blank rfl ?_)
  refine .token rfl (l := ⟨.arrow, 2, _⟩) rfl (.blank rfl ?_)
  refine .token rfl hword ?_
  refine .token rfl (l := ⟨.lparen, 1, _⟩) rfl ?_
  exact .token rfl hv h

theorem parse_quotedName (name : String) :
    ∃ f, Lambda.parse ("v => is_a(v, " ++ Query.quotedName name ++ ")") = .ok f ∧
      f.params = ["v"] ∧ f.body = .call "is_a" [.param "v", .str name] := by
  refine parse_of_lexes [.ident "v", .arrow, .ident "is_a", .lparen, .ident "v", .comma, .str name,
    .rparen] ?_ rfl
  obtain ⟨stop, hstop⟩ := stringBody_escaped 0 [')'] name.toList 1
  have hname : scan 0 '\x22' (escaped name.toList ++ ['\x22', ')']) =
      .ok ⟨.str name, stop, [')']⟩ := by
    have hstring : scanString 0 '\x22' (escaped name.toList ++ ['\x22', ')']) =
        .ok ⟨.str (String.ofList name.toList), stop - 0, [')']⟩ := by
      rw [scanString, hstop]
      rfl
    rw [String.ofList_toList] at hstring
    exact hstring
  have hchars : ("v => is_a(v, " ++ Query.quotedName name ++ ")").toList =
      "v => i".toList ++ ['s', '_', 'a'] ++ "(v".toList ++
        ',' :: ' ' :: '\x22' :: (escaped name.toList ++ ['\x22', ')']) := by
    rw [String.toList_append, String.toList_append, quotedName_toList]
    simp
  rw [hchars]
  refine lexes_check rfl rfl ?_
  refine .token rfl (l := ⟨.comma, 1, _⟩) rfl (.blank rfl ?_)
  exact .token rfl hname (.token rfl (l := ⟨.rparen, 1, []⟩) rfl .nil)

theorem parse_checkedType {lower : String} (h : lower ∈ Query.checkedTypes) :
    ∃ f, Lambda.parse ("v => is_" ++ lower ++ "(v)") = .ok f ∧ f.params = ["v"] ∧
      f.body = .call ("is_" ++ lower) [.param "v"] := by
  refine parse_of_lexes [.ident "v", .arrow, .ident ("is_" ++ lower), .lparen, .ident "v", .rparen] ?_ rfl
  have hchars : ("v => is_" ++ lower ++ "(v)").toList =
      "v => i".toList ++ ('s' :: '_' :: lower.toList) ++ "(v".toList ++ [')'] := by
    simp
  rw [hchars]
  refine lexes_check (n := 3 + lower.length) ?_ rfl (.token rfl (l := ⟨.rparen, 1, []⟩) rfl .nil)
  fin_cases h <;> rfl

theorem find_checkedType {lower : String} (h : lower ∈ Query.checkedTypes) :
    ∃ p, Builtin.find? ("is_" ++ lower) = some (Builtin.test p) := by
  fin_cases h <;> exact ⟨_, rfl⟩

/-! ## What a type check says -/

/-- `b` is the answer whether a value is of the named type. A name that has a check of its own leaves the
answer to this; of any other name are the objects that carry it, and the values of the kind that is so
named in any case. -/
def Query.SaysType (typeName : String) (v : Value) (b : Bool) : Prop :=
  let lower := Text.asciiLower typeName
  if lower ∈ checkedTypes then Builtin.call ("is_" ++ lower) [v] = .ok (.bool b)
  else b = true ↔
    (∃ fields, v = .object fields ∧ Fields.get? fields Builtin.typeField = some (.str typeName)) ∨
      Text.asciiLower v.typeName = lower

theorem isOfType_iff {v : Value} {typeName : String} : Builtin.isOfType v typeName = true ↔
    (∃ fields, v = .object fields ∧ Fields.get? fields Builtin.typeField = some (.str typeName)) ∨
      Text.asciiLower v.typeName = Text.asciiLower typeName := by
  rw [Builtin.isOfType, Bool.or_eq_true, beq_iff_eq]
  refine or_congr_left ?_
  cases v with
  | object fields =>
    rw [Value.get?]
    cases hget : Fields.get? fields Builtin.typeField <;> simp [Value.isStr_iff, hget]
  | _ => simp [Value.get?]

/-- **Every type name makes a check** that answers for any value. -/
theorem typeCheck_says (typeName : String) : ∃ f, Lambda.parse (Query.typeCheck typeName) = .ok f ∧
    ∀ v, ∃ b, f.call v = .ok (.bool b) ∧ Query.SaysType typeName v b := by
  rw [Query.typeCheck]
  split
  next h =>
    have hmem := List.contains_iff_mem.mp h
    obtain ⟨f, hparse, hparams, hbody⟩ := parse_checkedType hmem
    obtain ⟨p, hp⟩ := find_checkedType hmem
    have hcall (v : Value) : Builtin.call ("is_" ++ Text.asciiLower typeName) [v] = .ok (.bool (p v)) := by
      rw [Builtin.call, hp]
      rfl
    refine ⟨f, hparse, fun v => ⟨p v, ?_, (if_pos hmem).mpr (hcall v)⟩⟩
    rw [Lambda.call, Lambda.apply, hparams, hbody]
    have heval : (Expr.call ("is_" ++ Text.asciiLower typeName) [.param "v"]).eval [("v", v)] =
        Run.lift (Builtin.call ("is_" ++ Text.asciiLower typeName) [v]) := rfl
    exact heval.trans (congrArg Run.lift (hcall v))
  next h =>
    have hmem : Text.asciiLower typeName ∉ Query.checkedTypes := fun hmem => h (List.contains_iff_mem.mpr hmem)
    obtain ⟨f, hparse, hparams, hbody⟩ := parse_quotedName typeName
    refine ⟨f, hparse, fun v => ⟨Builtin.isOfType v typeName, ?_, (if_neg hmem).mpr isOfType_iff⟩⟩
    rw [Lambda.call, Lambda.apply, hparams, hbody]
    rfl

/-- **Any query can be cut to any type**, which leaves its other clauses as they are; whether a value is of
the type never fails. -/
theorem withType_says (q : Query) (typeName : String) :
    ∃ f, q.withType typeName = .ok { q with ofType := some f } ∧
      ∀ v, ∃ b, f.test v = .ok b ∧ Query.SaysType typeName v b := by
  obtain ⟨f, hparse, hsays⟩ := typeCheck_says typeName
  refine ⟨f, by rw [Query.withType, Query.expression, hparse]; rfl, fun v => ?_⟩
  obtain ⟨b, hcall, hb⟩ := hsays v
  refine ⟨b, ?_, hb⟩
  rw [Lambda.test, hcall]
  rfl

end RowQuery
