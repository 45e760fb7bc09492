import RowQuery.Filter.Eval
import RowQuery.Filter.Parser
import RowQuery.Store.Basic

/-!
# Tables in memory

A `MemoryStore` keeps its tables and the requests that were made to it. `rows` answers one request from
the tables; a row outside the requested partition is passed over before the filter looks at it.
-/

namespace RowQuery

structure MemoryStore where
  tables : Fields (List Value) := []
  /-- Requests so far, the oldest first. -/
  requests : List Request := []

namespace MemoryStore

/-- Field that holds the partition of a row. -/
def partitionKey : String := "PartitionKey"

/-- Whether a row lies in a partition; every row lies in the partition that is not given. -/
def inPartition (partition : Option String) (row : Value) : Bool :=
  match partition, row.get? partitionKey with
  | none, _ => true
  | some p, some key => key.isStr p
  | some _, none => false

/-- Rows that a filter accepts, in order. -/
def accepted (filter : Filter.Expr) : List Value → Eval (List Value)
  | [] => .ok []
  | row :: rest => do
    let keep ← filter.accepts row
    let kept ← accepted filter rest
    return if keep then row :: kept else kept

/-- Rows that pass the filter with a text, if there is one. -/
def filtered (filter : Option String) (rows : List Value) : Run StoreError (List Value) :=
  match filter with
  | none => .ok rows
  | some text =>
    match Filter.parse text with
    | .error e => Run.fail (.invalidFilter text e.message)
    | .ok filter =>
      Run.mapError (fun e => .invalidFilter text e.message) (accepted filter rows)

/-- Answer to a request. -/
def rows (tables : Fields (List Value)) (request : Request) : Run StoreError (List Value) :=
  match Fields.get? tables request.table with
  | none => Run.fail (.noSuchTable request.table)
  | some rows => filtered request.filter (rows.filter (inPartition request.partition))

/-- Answers a request and notes it. -/
def retrieve (request : Request) (store : MemoryStore) :
    Run StoreError (List Value) × MemoryStore :=
  (rows store.tables request, { store with requests := store.requests ++ [request] })

instance : RowService MemoryStore where
  retrieve := retrieve

end MemoryStore

end RowQuery
