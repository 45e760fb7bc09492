import RowQuery.Lambda.Parser

/-!
# Lambdas

A lambda keeps its source text beside its body: evaluation works on the body, push-down on the tokens
of the text behind the arrow.
-/

namespace RowQuery

open Lambda

structure Lambda where
  params : List String
  body : Expr
  source : String
  /-- Text of the body. -/
  bodySource : String

namespace Lambda

/-- Text behind the first arrow, without blanks at its ends. -/
def textBehindArrow (source : String) : String :=
  String.ofList (Text.trim ((Text.after? ['=', '>'] source.toList).getD source.toList))

def parse (source : String) : Except ParseError Lambda := do
  let lexed := lex source.toList
  let (params, body) ← parseTokens lexed.fault lexed.tokens
  return ⟨params, body, source, textBehindArrow source⟩

/-- The lambda that returns its argument, called `name`. -/
def identity (name : String) : Lambda where
  params := [name]
  body := .param name
  source := name ++ " => " ++ name
  bodySource := Text.trimString name

/-- The first parameter. -/
def param (f : Lambda) : String :=
  f.params.headD ""

def binds (f : Lambda) (name : String) : Bool :=
  f.params.contains name

end Lambda

end RowQuery
