import RowQuery.CommandLine.Config
import RowQuery.Json.Parser
import RowQuery.Json.Writer
import RowQuery.PushDown.Eligibility
import RowQuery.Query.Answer
import RowQuery.Store.Load

/-!
# Commands

What the three commands do: run a query over tables in a JSON text, show the filter text of a predicate,
and check an expression.
-/

namespace RowQuery.CommandLine

inductive CommandError where
  | parse (e : Lambda.ParseError)
  | query (e : QueryError)
  | data (e : StoreError)
  | config (e : ConfigError)
  /-- Data that is no JSON text. -/
  | malformedData
  | io (reason : String)
  | noInput
  deriving Inhabited

def CommandError.message : CommandError → String
  | parse e => "Parse error: " ++ e.message
  | query e => "Query failed: " ++ e.message
  | data e => "Data error: " ++ e.message
  | config e => "Config error: " ++ e.message
  | malformedData => "Invalid JSON: the data cannot be read"
  | io reason => "IO error: " ++ reason
  | noInput => "No input provided. Use --data or pipe JSON to stdin."

/-! ## Query -/

/-- A query as its clauses are written on the command line. -/
structure QueryCommand where
  /-- JSON text: an array of records, or an object of tables. -/
  data : Option String := none
  table : Option String := none
  partition : Option String := none
  filter : Option String := none
  ofType : Option String := none
  distinct : Option String := none
  /-- Sort keys, the primary one first; `desc:` in front of a key makes it descend. -/
  orderBy : List String := []
  skip : Option Nat := none
  take : Option Nat := none
  skipWhile : Option String := none
  takeWhile : Option String := none
  select : Option String := none
  /-- Whether only the number of rows is wanted. -/
  count : Bool := false
  pushdown : Bool := true

inductive QueryOutput where
  | count (n : Nat)
  | rows (json : Json)

/-- Table that data without table names go into. -/
def defaultTable : String := "records"

/-- Applies a clause, if it is given. -/
def withClause {α : Type} (clause : Option α) (add : Query → α → Except QueryError Query)
    (q : Query) : Except QueryError Query :=
  match clause with
  | none => .ok q
  | some a => add q a

/-- A sort key and its direction. -/
def sortKey (text : String) : String × Direction :=
  let key := Text.trim text.toList
  match key with
  | 'd' :: 'e' :: 's' :: 'c' :: ':' :: rest => (String.ofList (Text.trim rest), .descending)
  | _ => (String.ofList key, .ascending)

/-- Adds sort keys, the first as the primary one. -/
def withOrder (q : Query) : List String → Except QueryError Query
  | [] => .ok q
  | first :: rest => do
    let (key, direction) := sortKey first
    let q ← q.orderBy key direction none
    rest.foldlM (fun q text =>
      let (key, direction) := sortKey text
      q.thenBy key direction none) q

/-- The query that a command describes. -/
def build (c : QueryCommand) (table : String) : Except QueryError Query := do
  let q := { Query.ofTable table c.partition with pushdown := c.pushdown }
  let q ← withClause c.filter Query.withFilter q
  let q ← withClause c.ofType Query.withType q
  let q ← withClause c.distinct Query.withDistinct q
  let q ← withOrder q c.orderBy
  let q ← withClause c.skipWhile Query.withSkipWhile q
  let q ← withClause c.takeWhile Query.withTakeWhile q
  return { q with skip := c.skip, take := c.take }

/-- Answer of a query from a store. -/
def answer {α : Type} (store : MemoryStore) (m : QueryM MemoryStore α) : Run CommandError α :=
  Run.mapError .query (m.run.run store).1

/-- Runs the query of a command. -/
def query (c : QueryCommand) : Run CommandError QueryOutput :=
  match c.data with
  | none => Run.fail .noInput
  | some data =>
    match Json.parse? data with
    | none => Run.fail .malformedData
    | some json => do
      let table := c.table.getD defaultTable
      let store ← Run.lift ((MemoryStore.ofJson json table).mapError .data)
      let q ← Run.lift ((build c table).mapError .query)
      if c.count then return .count (← answer store q.count)
      else
        let rows ←
          match c.select with
          | some selector => answer store (q.select selector)
          | none => answer store q.toList
        return .rows (Value.array rows).toJson

/-! ## Compile and check -/

inductive CompileOutput where
  /-- Filter text that the store would get. -/
  | remote (filter : String)
  | stays (reason : PushDown.Rejection)

def CompileOutput.message : CompileOutput → String
  | remote filter => filter
  | stays reason => "evaluated locally: predicate " ++ reason.message

def compile (source : String) : Except CommandError CompileOutput := do
  let f ← (Lambda.parse source).mapError .parse
  match PushDown.rejection? f with
  | some reason => return .stays reason
  | none =>
    match PushDown.compile f with
    | .ok filter => return .remote filter
    | .error e => .error (.query (.compilation e))

structure CheckOutput where
  params : List String
  body : String

def check (source : String) : Except CommandError CheckOutput := do
  let f ← (Lambda.parse source).mapError .parse
  return ⟨f.params, f.bodySource⟩

end RowQuery.CommandLine
