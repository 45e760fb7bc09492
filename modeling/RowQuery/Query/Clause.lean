import RowQuery.Query.Basic
import RowQuery.Text.Case

/-!
# Clauses of queries

Each clause returns the query with the clause added; expressions are read at once. A clause that was set
before is replaced.
-/

namespace RowQuery.Query

/-- Reads an expression of a query. -/
def expression (source : String) : Except QueryError Lambda :=
  (Lambda.parse source).mapError .expression

def ofTable (name : String) (partition : Option String) : Query where
  source := .table name partition

def ofValues (rows : List Value) : Query where
  source := .values rows

/-- Keeps rows that meet a condition. -/
def withFilter (q : Query) (predicate : String) : Except QueryError Query := do
  return { q with filter := some (← expression predicate) }

/-- Ends at the first row that fails a condition. -/
def withTakeWhile (q : Query) (predicate : String) : Except QueryError Query := do
  return { q with takeWhile := some (← expression predicate) }

/-- Drops rows as long as a condition holds. -/
def withSkipWhile (q : Query) (predicate : String) : Except QueryError Query := do
  return { q with skipWhile := some (← expression predicate) }

/-- Keeps the first row for each value of a key. -/
def withDistinct (q : Query) (key : String) : Except QueryError Query := do
  return { q with distinct := some (← expression key) }

/-- Sets the primary sort key; keys behind it stay. -/
def orderBy (q : Query) (key : String) (direction : Direction)
    (compare : Option (Value → Value → Ordering)) : Except QueryError Query := do
  return { q with order := ⟨← expression key, direction, compare⟩ :: q.order.tail }

/-- Adds a sort key behind the others. -/
def thenBy (q : Query) (key : String) (direction : Direction)
    (compare : Option (Value → Value → Ordering)) : Except QueryError Query := do
  return { q with order := q.order ++ [⟨← expression key, direction, compare⟩] }

/-- Type names that have a check of their own, `is_` and the name. -/
def checkedTypes : List String := [
  "array", "bool", "double", "float", "int", "integer", "long", "null", "numeric", "object", "real",
  "scalar", "string"]

/-- A name between double quotes, as expressions write it. -/
def quotedName (name : String) : String :=
  let escaped :=
    Text.replaceChar '\x22' ['\\', '\x22'] (Text.replaceChar '\\' ['\\', '\\'] name.toList)
  String.ofList ('\x22' :: escaped ++ ['\x22'])

/-- Expression that tells whether a value is of the named type. -/
def typeCheck (typeName : String) : String :=
  let lower := Text.asciiLower typeName
  if checkedTypes.contains lower then "v => is_" ++ lower ++ "(v)"
  else "v => is_a(v, " ++ quotedName typeName ++ ")"

/-- Keeps rows of a type. -/
def withType (q : Query) (typeName : String) : Except QueryError Query := do
  return { q with ofType := some (← expression (typeCheck typeName)) }

def withJoin (q : Query) (name condition : String) : Except QueryError Query := do
  return { q with joins := q.joins ++ [⟨name, ← expression condition⟩] }

end RowQuery.Query
