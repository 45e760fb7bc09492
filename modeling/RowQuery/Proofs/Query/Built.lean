import RowQuery.Proofs.Failure
import RowQuery.Proofs.Query.Sorting
import RowQuery.Proofs.Query.TypeCheck

/-!
# Queries that clauses build

`Built q`: the query starts from a table or from given rows, and clauses were added one after the other.
What clauses cannot set otherwise holds of every such query: its where-clause was parsed, and its type
check was made from a type name (`Built.filter_parses`, `Built.ofType_answers`).
-/

namespace RowQuery

open Query

inductive Query.Built : Query → Prop where
  | table (name : String) (partition : Option String) : Built (ofTable name partition)
  | values (rows : List Value) : Built (ofValues rows)
  | source {q : Query} (h : Built q) (source : Source) : Built { q with source := source }
  | pushdown {q : Query} (h : Built q) (pushdown : Bool) : Built { q with pushdown := pushdown }
  | skip {q : Query} (h : Built q) (n : Nat) : Built { q with skip := some n }
  | take {q : Query} (h : Built q) (n : Nat) : Built { q with take := some n }
  | filter {q q' : Query} {predicate : String} (h : Built q) (hq : q.withFilter predicate = .ok q') :
      Built q'
  | skipWhile {q q' : Query} {predicate : String} (h : Built q)
      (hq : q.withSkipWhile predicate = .ok q') : Built q'
  | takeWhile {q q' : Query} {predicate : String} (h : Built q)
      (hq : q.withTakeWhile predicate = .ok q') : Built q'
  | distinct {q q' : Query} {key : String} (h : Built q) (hq : q.withDistinct key = .ok q') : Built q'
  | orderBy {q q' : Query} {key : String} {direction : Direction}
      {compare : Option (Value → Value → Ordering)} (h : Built q)
      (hq : q.orderBy key direction compare = .ok q') : Built q'
  | thenBy {q q' : Query} {key : String} {direction : Direction}
      {compare : Option (Value → Value → Ordering)} (h : Built q)
      (hq : q.thenBy key direction compare = .ok q') : Built q'
  | ofType {q q' : Query} {typeName : String} (h : Built q) (hq : q.withType typeName = .ok q') :
      Built q'
  | join {q q' : Query} {name condition : String} (h : Built q)
      (hq : q.withJoin name condition = .ok q') : Built q'

variable {q q' : Query}

theorem expression_eq_ok {source : String} {f : Lambda} :
    expression source = .ok f ↔ Lambda.parse source = .ok f := by
  rw [expression]
  cases Lambda.parse source <;> simp [Except.mapError]

/-- The where-clause of a query is an expression that was read. -/
theorem Query.Built.filter_parses (h : q.Built) {f : Lambda} (hf : f ∈ q.filter) :
    ∃ source, Lambda.parse source = .ok f := by
  induction h with
  | table | values => cases hf
  | source h source ih | pushdown h source ih | skip h source ih | take h source ih => exact ih hf
  | @filter q q' predicate h hq ih =>
    obtain ⟨g, hg, hq⟩ := bind_eq_ok.mp hq
    cases hq
    cases hf
    exact ⟨predicate, expression_eq_ok.mp hg⟩
  | skipWhile h hq ih | takeWhile h hq ih | distinct h hq ih | orderBy h hq ih | thenBy h hq ih
    | ofType h hq ih | join h hq ih =>
    obtain ⟨g, -, hq⟩ := bind_eq_ok.mp hq
    cases hq
    exact ih hf

/-- The type check of a query answers for every value. -/
theorem Query.Built.ofType_answers (h : q.Built) {g : Lambda} (hg : g ∈ q.ofType) (rows : List Value) :
    g.Answers rows := by
  induction h with
  | table | values => cases hg
  | source h source ih | pushdown h source ih | skip h source ih | take h source ih => exact ih hg
  | @ofType q q' typeName h hq ih =>
    obtain ⟨f, hf, hq⟩ := bind_eq_ok.mp hq
    cases hq
    cases hg
    obtain ⟨f, hparse, hanswers⟩ := typeCheck_says typeName
    rw [expression_eq_ok, hparse] at hf
    cases hf
    intro row _
    obtain ⟨b, hb, -⟩ := hanswers row
    exact ⟨.bool b, hb⟩
  | filter h hq ih | skipWhile h hq ih | takeWhile h hq ih | distinct h hq ih | orderBy h hq ih
    | thenBy h hq ih | join h hq ih =>
    obtain ⟨f, -, hq⟩ := bind_eq_ok.mp hq
    cases hq
    exact ih hg

end RowQuery
