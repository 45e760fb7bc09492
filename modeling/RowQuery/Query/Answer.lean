import RowQuery.Query.Clause
import RowQuery.Query.Execution

/-!
# Answers of queries

Each answer runs its query once. An expression that an answer takes is read before the query runs.
-/

namespace RowQuery.Query

variable {σ : Type} [RowService σ]

/-- All rows. -/
def toList (q : Query) : QueryM σ (List Value) :=
  q.execute none

/-- All rows through a selector. -/
def select (q : Query) (selector : String) : QueryM σ (List Value) := do
  let f ← QueryM.ofExcept (expression selector)
  q.execute (some f)

def count (q : Query) : QueryM σ Nat := do
  return (← q.toList).length

/-! ## Totals -/

/-- Sum of numbers, from the left, on top of a total. -/
def sumOnto (total : Value) : List Value → Eval Value
  | [] => .ok total
  | v :: rest =>
    if v.isNumeric then do sumOnto (← Arithmetic.add.apply total v) rest
    else Run.fail (.typeFault (.sum v.typeName))

/-- Sum of numbers; 0 of none. -/
def sumOf (values : List Value) : Eval Value :=
  sumOnto (.int 0) values

def sum (q : Query) (selector : String) : QueryM σ Value := do
  QueryM.ofEval (sumOf (← q.select selector))

/-- The sum as a float, divided by the number of values. -/
def averageOf (values : List Value) : Eval (Option Value) :=
  if values.isEmpty then .ok none
  else do
    let total := (← sumOf values).asFloat?.getD 0.0
    return some (.float (total / Number.ofNat values.length))

def average (q : Query) (selector : String) : QueryM σ (Option Value) := do
  QueryM.ofEval (averageOf (← q.select selector))

/-- The best value so far, from the first one on: a later value takes its place where it compares to it
in a way that `beats`. -/
def bestOf (beats : Ordering → Bool) : List Value → Option Value
  | [] => none
  | first :: rest =>
    some (rest.foldl (fun best v => if beats (v.sortCompare best) then v else best) first)

def min (q : Query) (selector : String) : QueryM σ (Option Value) := do
  return bestOf Ordering.isLT (← q.select selector)

def max (q : Query) (selector : String) : QueryM σ (Option Value) := do
  return bestOf Ordering.isGT (← q.select selector)

/-! ## Single rows -/

/-- The query cut to at most `n` rows. -/
def limit (q : Query) (n : Nat) : Query :=
  { q with take := some (q.take.elim n (Nat.min · n)) }

def first (q : Query) : QueryM σ (Option Value) := do
  return (← (q.limit 1).toList).head?

def last (q : Query) : QueryM σ (Option Value) := do
  return (← q.toList).getLast?

/-- The only row; more than one is an error. -/
def single (q : Query) : QueryM σ (Option Value) := do
  match ← (q.limit 2).toList with
  | [] => return none
  | [row] => return some row
  | _ => QueryM.ofExcept (.error .notSingle)

/-- The query for one row by its index, without the where-clause. -/
def atIndex (q : Query) (index : Nat) : Query :=
  { q with filter := none, take := some 1, skip := some index }

def elementAt (q : Query) (index : Nat) : QueryM σ (Option Value) := do
  return (← (q.atIndex index).toList).head?

/-- An answer, or a value in its place where there is none. -/
def orDefault (answer : QueryM σ (Option Value)) (default : Value) : QueryM σ Value := do
  return (← answer).getD default

/-! ## Tests -/

/-- Whether nothing but order and type shapes the rows. -/
def isUnshaped (q : Query) : Bool :=
  q.filter.isNone && q.distinct.isNone && q.skip.isNone && q.take.isNone && q.skipWhile.isNone &&
    q.takeWhile.isNone

/-- Whether a row passes a test; rows behind the first that does are not looked at. -/
def anyOf (f : Lambda) : List Value → Eval Bool
  | [] => .ok false
  | v :: rest => do if ← f.test v then return true else anyOf f rest

/-- Whether all rows pass a test; rows behind the first that does not are not looked at. -/
def allOf (f : Lambda) : List Value → Eval Bool
  | [] => .ok true
  | v :: rest => do if ← f.test v then allOf f rest else return false

/-- Whether any row meets a condition. Where the rows are unshaped, the condition is made the
where-clause, so that the store can test it. -/
def any (q : Query) (predicate : String) : QueryM σ Bool := do
  let f ← QueryM.ofExcept (expression predicate)
  if q.isUnshaped then
    return !(← { q with filter := some f, take := some 1 : Query }.toList).isEmpty
  else QueryM.ofEval (anyOf f (← q.toList))

def all (q : Query) (predicate : String) : QueryM σ Bool := do
  let f ← QueryM.ofExcept (expression predicate)
  QueryM.ofEval (allOf f (← q.toList))

/-- Whether a row equals a value; numbers compare by value. -/
def contains (q : Query) (v : Value) : QueryM σ Bool := do
  return (← q.toList).any (·.looseEq v)

/-! ## Folds and new queries -/

/-- Folds rows from the left. -/
def fold (f : Lambda) (acc : Value) : List Value → Eval Value
  | [] => .ok acc
  | v :: rest => do fold f (← f.apply [acc, v]) rest

def aggregate (q : Query) (seed : Value) (folder : String) : QueryM σ Value := do
  let f ← QueryM.ofExcept (expression folder)
  QueryM.ofEval (fold f seed (← q.toList))

/-- A query of given rows that may push down whenever `q` may. -/
def onRows (q : Query) (rows : List Value) : Query :=
  { ofValues rows with pushdown := q.pushdown }

/-- The rows in reverse order, as a new query. -/
def reverse (q : Query) : QueryM σ Query := do
  return q.onRows (← q.toList).reverse

/-- The rows with others behind them, as a new query. -/
def concat (q : Query) (values : List Value) : QueryM σ Query := do
  return q.onRows ((← q.toList) ++ values)

end RowQuery.Query
