import RowQuery.Number.Layout
import RowQuery.Number.Scan
import RowQuery.Operator
import RowQuery.Text.Quoted

/-!
# Tokens of guest expressions
-/

namespace RowQuery.Lambda

/-- How a connective was spelt. -/
inductive Spelling where
  | symbol
  | word
  deriving DecidableEq, Repr, Inhabited

inductive Token where
  | float (x : Float)
  | int (n : Int64)
  | str (s : String)
  | bool (b : Bool)
  | null
  | ident (name : String)
  | returnWord
  | arrow
  | comparison (op : Comparison)
  | plus
  | minus
  | star
  | slash
  | percent
  | connective (op : Connective) (spelling : Spelling)
  | bang
  | lparen
  | rparen
  | dot
  | comma
  | semicolon
  deriving DecidableEq, Inhabited

namespace Token

def isComparison : Token → Bool
  | comparison _ => true
  | _ => false

/-- Binary operator that a token stands for. -/
def binaryOp? : Token → Option BinaryOp
  | comparison op => some (.comparison op)
  | connective op _ => some (.connective op)
  | plus => some (.arithmetic .add)
  | minus => some (.arithmetic .subtract)
  | star => some (.arithmetic .multiply)
  | slash => some (.arithmetic .divide)
  | percent => some (.arithmetic .modulo)
  | _ => none

/-- Unary operator that a token stands for at the start of an operand. -/
def unaryOp? : Token → Option UnaryOp
  | bang => some .not
  | minus => some .negate
  | _ => none

/-- Name of the kind of a token. -/
def kind : Token → String
  | float _ => "Float"
  | int _ => "Integer"
  | str _ => "String"
  | bool _ => "Boolean"
  | null => "Null"
  | ident _ => "Identifier"
  | returnWord => "Return"
  | arrow => "Arrow"
  | comparison .equal => "EqEq"
  | comparison .strictEqual => "EqEqEq"
  | comparison .notEqual => "NotEq"
  | comparison .strictNotEqual => "NotEqEq"
  | comparison .less => "Lt"
  | comparison .greater => "Gt"
  | comparison .lessEqual => "LtEq"
  | comparison .greaterEqual => "GtEq"
  | plus => "Plus"
  | minus => "Minus"
  | star => "Star"
  | slash => "Slash"
  | percent => "Percent"
  | connective .and .symbol => "AndAnd"
  | connective .or .symbol => "OrOr"
  | connective .and .word => "And"
  | connective .or .word => "Or"
  | bang => "Bang"
  | lparen => "LParen"
  | rparen => "RParen"
  | dot => "Dot"
  | comma => "Comma"
  | semicolon => "Semicolon"

/-- A token as error messages show it: its kind, and its value in parentheses if it has one. -/
def shown : Token → String
  | float x => "Float(" ++ Number.Layout.tagged.write x ++ ")"
  | int n => "Integer(" ++ Number.intText n ++ ")"
  | str s => "String(" ++ Text.quoted s ++ ")"
  | bool b => "Boolean(" ++ (if b then "true" else "false") ++ ")"
  | ident name => "Identifier(" ++ Text.quoted name ++ ")"
  | t => t.kind

/-- The end of the text counts as a token in messages. -/
def shownOrEnd : Option Token → String
  | some t => t.shown
  | none => "Eof"

/-- Name of the property behind a dot as messages give it; a dot stands for anything but a name. -/
def propertyName : Option Token → String
  | some (ident name) => name
  | _ => "."

end Token

end RowQuery.Lambda
