import RowQuery.Operator
import RowQuery.Value.Basic

/-!
# Filters

Conditions on one record, as the store understands them. A name stands for a property of the record.
-/

namespace RowQuery.Filter

/-- Relation that a filter can ask for; none of them tells integers from floats. -/
inductive Relation where
  | equal
  | notEqual
  | less
  | greater
  | lessEqual
  | greaterEqual
  deriving DecidableEq, Repr, Inhabited

/-- A binary operator of filters. -/
inductive Op where
  | relation (r : Relation)
  | arithmetic (op : Arithmetic)
  | connective (op : Connective)
  deriving DecidableEq, Repr, Inhabited

inductive Expr where
  | literal (v : Value)
  | property (name : String)
  | call (name : String) (args : List Expr)
  | unary (op : UnaryOp) (operand : Expr)
  | binary (op : Op) (left right : Expr)
  deriving Inhabited

/-! ## Words -/

def Relation.word : Relation → String
  | equal => "eq"
  | notEqual => "ne"
  | greater => "gt"
  | greaterEqual => "ge"
  | less => "lt"
  | lessEqual => "le"

def Relation.ofWord? (word : String) : Option Relation :=
  if word = "eq" then some equal
  else if word = "ne" then some notEqual
  else if word = "gt" then some greater
  else if word = "ge" then some greaterEqual
  else if word = "lt" then some less
  else if word = "le" then some lessEqual
  else none

def connectiveWord : Connective → String
  | .and => "and"
  | .or => "or"

/-- Words with a meaning of their own, which cannot name a property. -/
def reservedWords : List String :=
  ["eq", "ne", "gt", "ge", "lt", "le", "and", "or", "not", "true", "false", "null"]

def isReserved (word : String) : Bool :=
  reservedWords.contains word

/-! ## Operators -/

/-- The comparison of values that a relation stands for. -/
def Relation.comparison : Relation → Comparison
  | equal => .equal
  | notEqual => .notEqual
  | less => .less
  | greater => .greater
  | lessEqual => .lessEqual
  | greaterEqual => .greaterEqual

/-- The operator on values that an operator of filters stands for. -/
def Op.general : Op → BinaryOp
  | relation r => .comparison r.comparison
  | arithmetic op => .arithmetic op
  | connective op => .connective op

end RowQuery.Filter
