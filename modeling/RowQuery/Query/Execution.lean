import RowQuery.PushDown.Compile
import RowQuery.PushDown.Eligibility
import RowQuery.Query.Order
import RowQuery.Value.Canonical

/-!
# Running queries

`plan` decides what the store is asked and which part of the where-clause is left; `shape` sorts, filters
and cuts the rows that came back. A plan makes at most one request, and none if it fails.
-/

namespace RowQuery

/-! ## Plan -/

/-- Where the rows of a query come from, and the condition that is left to be tested on them. -/
structure Plan where
  source : Request ⊕ List Value
  residual : Option Lambda

/-- Filter text for a where-clause, if it may and can run at the store. -/
def Query.pushed (q : Query) : Except QueryError (Option String) :=
  match q.filter with
  | none => .ok none
  | some predicate =>
    if q.pushdown && PushDown.isEligible predicate then
      match PushDown.compile predicate with
      | .ok text => .ok (some text)
      | .error e => .error (.compilation e)
    else .ok none

/-- What a query asks for. Joins are refused before anything else. -/
def Query.plan (q : Query) : Except QueryError Plan :=
  match q.joins with
  | join :: _ => .error (.join join.name)
  | [] =>
    match q.source with
    | .values rows => .ok ⟨.inr rows, q.filter⟩
    | .table name partition => do
      let pushed ← q.pushed
      return ⟨.inl ⟨name, pushed, partition⟩, if pushed.isSome then none else q.filter⟩

/-! ## Shape -/

/-- Whether a row meets a condition, where there is one. -/
def passes (condition : Option Lambda) (row : Value) : Eval Bool :=
  match condition with
  | none => .ok true
  | some f => f.test row

/-- State of a scan over rows. -/
structure Scan where
  /-- Texts of the distinct keys met so far. -/
  seen : List String
  /-- Whether every row so far was dropped by the skip condition. -/
  skipping : Bool
  /-- Number of rows that passed the filters. -/
  position : Nat
  /-- Number of rows kept. -/
  kept : Nat

def Scan.start (q : Query) : Scan :=
  ⟨[], q.skipWhile.isSome, 0, 0⟩

/-- What becomes of a row. -/
inductive Fate where
  /-- A filter refuses the row; it does not count. -/
  | refused
  /-- The row lies in front of the window. -/
  | dropped (next : Scan)
  | kept (next : Scan)
  /-- The row lies behind the window, and all others do. -/
  | stop

namespace Query

/-- Distinct keys met so far, with that of a row; nothing if it was met before. -/
def newKey (q : Query) (seen : List String) (row : Value) : Eval (Option (List String)) :=
  match q.distinct with
  | none => .ok (some seen)
  | some key => do
    let text := (← key.call row).canonical
    return if seen.contains text then none else some (text :: seen)

/-- Place of a row that passed the filters: the skip condition is looked at before the take condition. -/
def place (q : Query) (s : Scan) (row : Value) : Eval Fate := do
  let skipping ← if s.skipping then passes q.skipWhile row else pure false
  if ← passes q.takeWhile row then
    let next := { s with skipping := skipping, position := s.position + 1 }
    if skipping || q.skip.any (s.position < ·) then return .dropped next
    else return .kept { next with kept := s.kept + 1 }
  else return .stop

def fate (q : Query) (residual : Option Lambda) (s : Scan) (row : Value) : Eval Fate := do
  if !(← passes q.ofType row) then return .refused
  else if !(← passes residual row) then return .refused
  else
    match ← q.newKey s.seen row with
    | none => return .refused
    | some seen => q.place { s with seen := seen } row

/-- Rows that a query keeps of the rows left to scan. -/
def scan (q : Query) (residual : Option Lambda) (s : Scan) : List Value → Eval (List Value)
  | [] => .ok []
  | row :: rest => do
    match ← q.fate residual s row with
    | .refused => q.scan residual s rest
    | .dropped next => q.scan residual next rest
    | .stop => return []
    | .kept next =>
      if q.take.any (· ≤ next.kept) then return [row]
      else return row :: (← q.scan residual next rest)

/-- Sorts, filters and cuts rows. -/
def shape (q : Query) (residual : Option Lambda) (rows : List Value) : Eval (List Value) := do
  let rows ← sortRows q.order rows
  if q.take = some 0 then return [] else q.scan residual (Scan.start q) rows

end Query

/-- Values of a selector on rows; the rows themselves without one. -/
def project (selector : Option Lambda) (rows : List Value) : Eval (List Value) :=
  match selector with
  | none => .ok rows
  | some f => rows.mapM f.call

/-! ## Execution -/

/-- A computation with a store that remembers a `σ`. -/
abbrev QueryM (σ : Type) := ExceptT (Failure QueryError) (StateM σ)

namespace QueryM

variable {σ α : Type}

/-- A computation that does not touch the store. -/
def ofRun (r : Run QueryError α) : QueryM σ α :=
  ExceptT.mk (pure r)

def ofExcept (r : Except QueryError α) : QueryM σ α :=
  ofRun (Run.lift r)

def ofEval (r : Eval α) : QueryM σ α :=
  ofRun (Run.mapError .evaluation r)

/-- Asks the store for rows. -/
def retrieve [RowService σ] (request : Request) : QueryM σ (List Value) :=
  ExceptT.mk fun s =>
    let (answer, s) := RowService.retrieve request s
    (Run.mapError .store answer, s)

end QueryM

variable {σ : Type} [RowService σ]

/-- Rows that a plan starts from. -/
def Plan.fetch (p : Plan) : QueryM σ (List Value) :=
  match p.source with
  | .inl request => QueryM.retrieve request
  | .inr rows => pure rows

/-- Runs a query, and the selector on each row of its result. -/
def Query.execute (q : Query) (selector : Option Lambda) : QueryM σ (List Value) := do
  let plan ← QueryM.ofExcept q.plan
  let rows ← plan.fetch
  QueryM.ofEval do project selector (← q.shape plan.residual rows)

end RowQuery
