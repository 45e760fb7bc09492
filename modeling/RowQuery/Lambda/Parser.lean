import RowQuery.Lambda.Expr
import RowQuery.Lambda.Lexer
import RowQuery.Precedence

/-!
# Reading lambdas

A lambda is `params => body`. Its tokens are read one by one: what is still open stands on a stack of
frames, and a `Mode` says what may come next. A comparison next to a comparison is left unread.

The text may end in a lexical error. It is reported as soon as the token in front of it has been read.
-/

namespace RowQuery.Lambda

/-- What a parser was waiting for. -/
inductive Expected where
  | operand
  | parameterName
  | arrow
  | endOfParameters
  | propertyName
  | closingParenthesis
  | argumentEnd
  | endOfExpression
  deriving DecidableEq, Repr, Inhabited

def Expected.message : Expected → String
  | operand => "an operand"
  | parameterName => "parameter name"
  | arrow => "'=>' after parameters"
  | endOfParameters => "')' after parameters"
  | propertyName => "property name after '.'"
  | closingParenthesis => "')'"
  | argumentEnd => "',' or ')' in argument list"
  | endOfExpression => "end of expression"

inductive ParseError where
  | lexical (e : LexError)
  /-- The token found, or the end of the text. -/
  | unexpected (expected : Expected) (found : Option Token)
  | duplicateParam (name : String)
  | methodCall (name : String)
  deriving DecidableEq, Inhabited

def ParseError.message : ParseError → String
  | lexical e => e.message
  | unexpected expected found =>
    "expected " ++ expected.message ++ ", got " ++ Token.shownOrEnd found
  | duplicateParam name => "parameter '" ++ name ++ "' is bound more than once"
  | methodCall name =>
    "method calls are not supported ('." ++ name ++ "(...)'); call a function instead"

/-- The tokens still to be read, where the text behind the last of them may be at `fault`. Reading a
token looks at the one behind it. -/
def advance (fault : Option LexError) (rest : List Token) : Except ParseError Unit :=
  match rest, fault with
  | [], some e => .error (.lexical e)
  | _, _ => .ok ()

/-! ## Expressions -/

/-- What may come next. -/
inductive Mode where
  | operand
  /-- An argument, or the end of the argument list. -/
  | argument
  /-- A name was read: a call if a parenthesis follows. -/
  | name (name : String)
  /-- An operand is complete. -/
  | complete (e : Expr)
  /-- The name of a property of `e`. -/
  | property (e : Expr)
  /-- A property was read: no parenthesis may follow. -/
  | member (e : Expr) (name : String)

abbrev Stack := List (Frame Expr BinaryOp)

def precedence : Precedence Expr BinaryOp where
  unary := .unary
  binary := .binary
  level := BinaryOp.level
  chains := BinaryOp.chains

/-- Result of looking at a token. -/
inductive Step where
  /-- The token was read. -/
  | shift (stack : Stack) (mode : Mode)
  /-- The expression ended in front of the token. -/
  | stop (e : Expr)

/-- A name that stands for a value. -/
def resolve (params : List String) (name : String) : Expr :=
  if params.contains name then .param name else .ident name

/-- Ends all operators in front of the token `t`, which closes or continues what is open. -/
def close (stack : Stack) (e : Expr) (t : Token) : Except ParseError Step :=
  match precedence.reduce 0 stack e with
  | (.group :: stack, e) =>
    if t = .rparen then .ok (.shift stack (.complete e))
    else .error (.unexpected .closingParenthesis (some t))
  | (.call name args :: stack, e) =>
    if t = .rparen then .ok (.shift stack (.complete (.call name (args ++ [e]))))
    else if t = .comma then .ok (.shift (.call name (args ++ [e]) :: stack) .argument)
    else .error (.unexpected .argumentEnd (some t))
  | (_, e) => .ok (.stop e)

/-- Reads the token behind the complete operand `e`. -/
def stepComplete (stack : Stack) (e : Expr) (t : Token) : Except ParseError Step :=
  if t = .dot then .ok (.shift stack (.property e))
  else
    match t.binaryOp?.bind (precedence.await? · stack e) with
    | some stack => .ok (.shift stack .operand)
    | none => close stack e t

/-- Literal that a token stands for. -/
def Token.literal? : Token → Option Expr
  | .float x => some (.float x)
  | .int n => some (.int n)
  | .str s => some (.str s)
  | .bool b => some (.bool b)
  | .null => some .null
  | .ident _ | .returnWord | .arrow | .comparison _ | .plus | .minus | .star | .slash | .percent
  | .connective .. | .bang | .lparen | .rparen | .dot | .comma | .semicolon => none

/-- Reads the first token of an operand. -/
def stepOperand (stack : Stack) (t : Token) : Except ParseError Step :=
  match t with
  | .ident name => .ok (.shift stack (.name name))
  | .lparen => .ok (.shift (.group :: stack) .operand)
  | _ =>
    match t.literal?, t.unaryOp? with
    | some e, _ => .ok (.shift stack (.complete e))
    | none, some op => .ok (.shift (.unary op :: stack) .operand)
    | none, none => .error (.unexpected .operand (some t))

def step (params : List String) (stack : Stack) (mode : Mode) (t : Token) : Except ParseError Step :=
  match mode with
  | .operand => stepOperand stack t
  | .argument =>
    match stack, t with
    | .call name args :: stack, .rparen => .ok (.shift stack (.complete (.call name args)))
    | _, _ => stepOperand stack t
  | .name name =>
    if t = .lparen then .ok (.shift (.call name [] :: stack) .argument)
    else stepComplete stack (resolve params name) t
  | .complete e => stepComplete stack e t
  | .property e =>
    match t with
    | .ident name => .ok (.shift stack (.member e name))
    | _ => .error (.unexpected .propertyName (some t))
  | .member e name =>
    if t = .lparen then .error (.methodCall name)
    else stepComplete stack (.property e name) t

/-- Ends everything at the end of the text. -/
def closeEnd (stack : Stack) (e : Expr) : Except ParseError Expr :=
  match precedence.reduce 0 stack e with
  | (.group :: _, _) => .error (.unexpected .closingParenthesis none)
  | (.call .. :: _, _) => .error (.unexpected .argumentEnd none)
  | (_, e) => .ok e

def stepEnd (params : List String) (stack : Stack) (mode : Mode) : Except ParseError Expr :=
  match mode with
  | .operand | .argument => .error (.unexpected .operand none)
  | .name name => closeEnd stack (resolve params name)
  | .complete e => closeEnd stack e
  | .property _ => .error (.unexpected .propertyName none)
  | .member e name => closeEnd stack (.property e name)

/-- Reads an expression, as many tokens as belong to it. -/
def readFrom (params : List String) (fault : Option LexError) (stack : Stack) (mode : Mode) :
    List Token → Except ParseError (Expr × List Token)
  | [] =>
    match fault with
    | some e => .error (.lexical e)
    | none => (stepEnd params stack mode).map fun e => (e, [])
  | t :: rest =>
    match step params stack mode t with
    | .error e => .error e
    | .ok (.shift stack mode) => readFrom params fault stack mode rest
    | .ok (.stop e) => .ok (e, t :: rest)

/-- An expression at the start of `tokens`, and the tokens behind it. -/
def parseExpr (params : List String) (fault : Option LexError) (tokens : List Token) :
    Except ParseError (Expr × List Token) :=
  readFrom params fault [] .operand tokens

/-! ## Lambdas -/

/-- Names of a parameter list behind its opening parenthesis, after the names `seen`. -/
def paramList (fault : Option LexError) (seen : List String) :
    List Token → Except ParseError (List String × List Token)
  | .ident name :: rest => do
    advance fault rest
    if seen.contains name then .error (.duplicateParam name)
    else
      match rest with
      | .comma :: rest => do
        advance fault rest
        paramList fault (seen ++ [name]) rest
      | .rparen :: rest => do
        advance fault rest
        return (seen ++ [name], rest)
      | _ => .error (.unexpected .endOfParameters rest.head?)
  | tokens => .error (.unexpected .parameterName tokens.head?)

/-- Parameters of a lambda: one name, or names in parentheses. -/
def parseParams (fault : Option LexError) :
    List Token → Except ParseError (List String × List Token)
  | .lparen :: rest => do
    advance fault rest
    paramList fault [] rest
  | .ident name :: rest => do
    advance fault rest
    return ([name], rest)
  | tokens => .error (.unexpected .parameterName tokens.head?)

/-- Reads semicolons up to the end of the text. -/
def parseEnd (fault : Option LexError) : List Token → Except ParseError Unit
  | [] => .ok ()
  | .semicolon :: rest => do
    advance fault rest
    parseEnd fault rest
  | t :: _ => .error (.unexpected .endOfExpression (some t))

/-- An expression that takes all tokens; a `return` may stand in front of it, semicolons behind it. -/
def parseBody (params : List String) (fault : Option LexError) (tokens : List Token) :
    Except ParseError Expr := do
  let tokens ←
    match tokens with
    | .returnWord :: rest => do
      advance fault rest
      pure rest
    | _ => pure tokens
  let (body, rest) ← parseExpr params fault tokens
  parseEnd fault rest
  return body

/-- Parameters and body of a lambda. -/
def parseTokens (fault : Option LexError) (tokens : List Token) :
    Except ParseError (List String × Expr) := do
  advance fault tokens
  let (params, rest) ← parseParams fault tokens
  match rest with
  | .arrow :: rest => do
    advance fault rest
    let body ← parseBody params fault rest
    return (params, body)
  | _ => .error (.unexpected .arrow rest.head?)

end RowQuery.Lambda
