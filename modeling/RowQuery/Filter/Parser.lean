import RowQuery.Builtin.Registry
import RowQuery.Filter.Token
import RowQuery.Precedence

/-!
# Reading filters

A filter takes all tokens of its text. Operators are spelt as words or signs; `not` and the minus sign in
front of an operand bind tighter than any binary operator, and relations do not chain. Only functions
native to the store may be called.
-/

namespace RowQuery.Filter

/-- Binary operator that a token stands for. -/
def Token.op? : Token → Option Op
  | plus => some (.arithmetic .add)
  | minus => some (.arithmetic .subtract)
  | star => some (.arithmetic .multiply)
  | slash => some (.arithmetic .divide)
  | percent => some (.arithmetic .modulo)
  | word w =>
    if w = "and" then some (.connective .and)
    else if w = "or" then some (.connective .or)
    else (Relation.ofWord? w).map .relation
  | _ => none

def precedence : Precedence Expr Op where
  unary := .unary
  binary := .binary
  level op := op.general.level
  chains op := op.general.chains

/-- What may come next. -/
inductive Mode where
  | operand
  /-- The first argument of a call, or the end of an empty argument list. -/
  | firstArgument
  /-- A name was read: a call if a parenthesis follows. -/
  | name (name : String)
  /-- An operand is complete. -/
  | complete (e : Expr)

abbrev Stack := List (Frame Expr Op)

/-- What is open, and what may come next. -/
structure State where
  stack : Stack
  mode : Mode

/-- Reads a word in the place of an operand. -/
def stepWord (stack : Stack) (w : String) : Except ParseError State :=
  if w = "not" then .ok ⟨.unary .not :: stack, .operand⟩
  else if w = "true" then .ok ⟨stack, .complete (.literal (.bool true))⟩
  else if w = "false" then .ok ⟨stack, .complete (.literal (.bool false))⟩
  else if w = "null" then .ok ⟨stack, .complete (.literal .null)⟩
  else if isReserved w then .error (.unexpected .operand (some (.word w)))
  else .ok ⟨stack, .name w⟩

/-- Value of a literal that is one token and no word. -/
def Token.literal? : Token → Option Value
  | int n => some (.int n)
  | float x => some (.float x)
  | str s => some (.str s)
  | word _ | lparen | rparen | comma | plus | minus | star | slash | percent => none

/-- Reads the first token of an operand. -/
def stepOperand (stack : Stack) (t : Token) : Except ParseError State :=
  match t with
  | .word w => stepWord stack w
  | .lparen => .ok ⟨.group :: stack, .operand⟩
  | .minus => .ok ⟨.unary .negate :: stack, .operand⟩
  | t =>
    match t.literal? with
    | some v => .ok ⟨stack, .complete (.literal v)⟩
    | none => .error (.unexpected .operand (some t))

/-- Ends all operators in front of the token `t`, which closes or continues what is open. -/
def close (stack : Stack) (e : Expr) (t : Token) : Except ParseError State :=
  match precedence.reduce 0 stack e with
  | (.group :: stack, e) =>
    if t = .rparen then .ok ⟨stack, .complete e⟩
    else .error (.unexpected .closingParenthesis (some t))
  | (.call name args :: stack, e) =>
    if t = .rparen then .ok ⟨stack, .complete (.call name (args ++ [e]))⟩
    else if t = .comma then .ok ⟨.call name (args ++ [e]) :: stack, .operand⟩
    else .error (.unexpected .closingParenthesis (some t))
  | (_, _) => .error (.unexpected .endOfFilter (some t))

/-- Reads the token behind the complete operand `e`. -/
def stepComplete (stack : Stack) (e : Expr) (t : Token) : Except ParseError State :=
  match t.op?.bind (precedence.await? · stack e) with
  | some stack => .ok ⟨stack, .operand⟩
  | none => close stack e t

def step (s : State) (t : Token) : Except ParseError State :=
  match s.mode with
  | .operand => stepOperand s.stack t
  | .firstArgument =>
    match s.stack, t with
    | .call name args :: stack, .rparen => .ok ⟨stack, .complete (.call name args)⟩
    | stack, t => stepOperand stack t
  | .name name =>
    if t = .lparen then
      if Builtin.isNative name then .ok ⟨.call name [] :: s.stack, .firstArgument⟩
      else .error (.unknownFunction name)
    else stepComplete s.stack (.property name) t
  | .complete e => stepComplete s.stack e t

/-- Ends everything at the end of the text. -/
def closeEnd (stack : Stack) (e : Expr) : Except ParseError Expr :=
  match precedence.reduce 0 stack e with
  | ([], e) => .ok e
  | (_, _) => .error (.unexpected .closingParenthesis none)

def finish (s : State) : Except ParseError Expr :=
  match s.mode with
  | .operand | .firstArgument => .error (.unexpected .operand none)
  | .name name => closeEnd s.stack (.property name)
  | .complete e => closeEnd s.stack e

/-- The filter that a list of tokens spells. -/
def parseTokens (tokens : List Token) : Except ParseError Expr := do
  finish (← tokens.foldlM step ⟨[], .operand⟩)

def parse (text : String) : Except ParseError Expr := do
  parseTokens (← tokenize text)

end RowQuery.Filter
