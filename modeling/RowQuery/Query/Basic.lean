import RowQuery.Lambda.Function
import RowQuery.PushDown.Segment
import RowQuery.Eval.Error
import RowQuery.Store.Basic

/-!
# Queries

A query names where its rows come from and the clauses that shape them. Nothing runs until an answer is
asked for; a query can be asked any number of times.
-/

namespace RowQuery

inductive Source where
  /-- A table of a store, or one partition of it. -/
  | table (name : String) (partition : Option String)
  | values (rows : List Value)

inductive Direction where
  | ascending
  | descending
  deriving DecidableEq, Repr, Inhabited

/-- A sort key. Its values are compared by `compare` if that is given. -/
structure OrderKey where
  key : Lambda
  direction : Direction
  compare : Option (Value → Value → Ordering)

/-- A join that was asked for; queries with joins are refused. -/
structure Join where
  name : String
  condition : Lambda

structure Query where
  source : Source
  /-- The where-clause. -/
  filter : Option Lambda := none
  ofType : Option Lambda := none
  /-- Rows with equal keys count as one. -/
  distinct : Option Lambda := none
  skip : Option Nat := none
  take : Option Nat := none
  skipWhile : Option Lambda := none
  takeWhile : Option Lambda := none
  /-- Sort keys, the primary one first. -/
  order : List OrderKey := []
  joins : List Join := []
  /-- Whether the where-clause may run at the store. -/
  pushdown : Bool := true

inductive QueryError where
  | expression (e : Lambda.ParseError)
  | compilation (e : PushDown.CompileError)
  | evaluation (e : EvalError)
  | store (e : StoreError)
  /-- A join with `name`. -/
  | join (name : String)
  /-- More than one row where at most one was wanted. -/
  | notSingle
  deriving DecidableEq, Inhabited

def QueryError.message : QueryError → String
  | expression e => "invalid expression: " ++ e.message
  | compilation e => "filter compilation failed: " ++ e.message
  | evaluation e => "evaluation failed: " ++ e.message
  | store e => "remote store: " ++ e.message
  | join name => "unsupported operation: join with '" ++ name ++ "' is not supported"
  | notSingle => "sequence contains more than one element"

end RowQuery
