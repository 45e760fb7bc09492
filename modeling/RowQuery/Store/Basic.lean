import RowQuery.Failure
import RowQuery.Value.Basic

/-!
# Requests to a store

A store is asked for the rows of one table, perhaps of one partition, perhaps through a filter. Anything
that answers such requests is a `RowService`.
-/

namespace RowQuery

structure Request where
  table : String
  filter : Option String := none
  partition : Option String := none
  deriving DecidableEq, Repr, Inhabited

inductive StoreError where
  | noSuchTable (name : String)
  /-- A filter that cannot be read, or that fails on a row. -/
  | invalidFilter (filter reason : String)
  | backend (reason : String)
  deriving DecidableEq, Repr, Inhabited

def StoreError.message : StoreError → String
  | noSuchTable name => "no such table: '" ++ name ++ "'"
  | invalidFilter filter reason => "invalid filter '" ++ filter ++ "': " ++ reason
  | backend reason => "backend failure: " ++ reason

/-- A service that answers requests for rows; `σ` is what it remembers between them. -/
class RowService (σ : Type) where
  retrieve : Request → σ → Run StoreError (List Value) × σ

end RowQuery
