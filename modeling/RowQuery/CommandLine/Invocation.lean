import RowQuery.CommandLine.Arguments
import RowQuery.Number.Scan

/-!
# Invocations

The command line names one of three commands, or `help`. The options `--config` and `--log-level` may stand
in front of the command or behind it; behind it they count more.
-/

namespace RowQuery.CommandLine

/-- The options of the `query` command. -/
structure QueryOptions where
  data : Option String
  table : Option String
  partition : Option String
  filter : Option String
  ofType : Option String
  distinct : Option String
  orderBy : List String
  skip : Option Nat
  take : Option Nat
  skipWhile : Option String
  takeWhile : Option String
  select : Option String
  count : Bool
  noPushdown : Bool
  pretty : Bool

inductive Command where
  | query (options : QueryOptions)
  | compile (expr : String)
  | check (expr : String)

structure Invocation where
  config : Option String
  logLevel : Option String
  command : Command

/-- What a command line asks for. -/
inductive Asked where
  | run (invocation : Invocation)
  | version
  | help
  | misuse

/-! ## Options -/

def isPath (text : String) : Bool := !text.isEmpty

/-- A count: decimal digits, perhaps behind a plus sign, below 2^64. -/
def count? (text : String) : Option Nat :=
  let digits :=
    match text.toList with
    | '+' :: rest => rest
    | cs => cs
  let n := Number.digitsValue digits
  if digits.isEmpty || !digits.all Number.isDigit || 2 ^ 64 ≤ n then none else some n

def isCount (text : String) : Bool := (count? text).isSome

def helpOption : OptionSpec :=
  { long := "help", short := some 'h', takesValue := false, ends := true }

def versionOption : OptionSpec :=
  { long := "version", short := some 'V', takesValue := false, ends := true }

/-- Options that every command takes. -/
def commonOptions : List OptionSpec := [
  { long := "config", accepts := isPath }, { long := "log-level" }, helpOption]

def queryOptions : List OptionSpec := commonOptions ++ [
  { long := "data", short := some 'd', accepts := isPath },
  { long := "table", short := some 't' },
  { long := "partition" },
  { long := "where", short := some 'w' },
  { long := "of-type" },
  { long := "distinct" },
  { long := "order-by", short := some 'o', repeats := true },
  { long := "skip", accepts := isCount },
  { long := "take", accepts := isCount },
  { long := "skip-while" },
  { long := "take-while" },
  { long := "select", short := some 's' },
  { long := "count", short := some 'c', takesValue := false },
  { long := "no-pushdown", takesValue := false },
  { long := "pretty", short := some 'p', takesValue := false }]

/-! ## Commands -/

def queryOptionsOf (g : Given) : QueryOptions where
  data := g.value? "data"
  table := g.value? "table"
  partition := g.value? "partition"
  filter := g.value? "where"
  ofType := g.value? "of-type"
  distinct := g.value? "distinct"
  orderBy := g.valuesOf "order-by"
  skip := (g.value? "skip").bind count?
  take := (g.value? "take").bind count?
  skipWhile := g.value? "skip-while"
  takeWhile := g.value? "take-while"
  select := g.value? "select"
  count := g.has "count"
  noPushdown := g.has "no-pushdown"
  pretty := g.has "pretty"

/-- The command for what was read behind its name: `query` takes no operand, the others take one. -/
def commandOf? (name : String) (g : Given) : Option Command :=
  match name, g.operands with
  | "query", [] => some (.query (queryOptionsOf g))
  | "compile", [expr] => some (.compile expr)
  | "check", [expr] => some (.check expr)
  | _, _ => none

def specsOf (name : String) : List OptionSpec :=
  if name = "query" then queryOptions else commonOptions

def isCommand (name : String) : Bool :=
  name = "query" || name = "compile" || name = "check"

/-- Whether a word stands for a command or asks for help. -/
def isCommandOrHelp (name : String) : Bool :=
  isCommand name || name = "help"

def endedBy (long : String) : Asked :=
  if long = "version" then .version else .help

/-- Reads the arguments behind the word `help`: the name of a command, or nothing. -/
def readHelp (args : List String) : Asked :=
  if args.length ≤ 1 && args.all isCommandOrHelp then .help else .misuse

/-- Reads the arguments behind the name of a command. -/
def readCommand (outer : Given) (name : String) (args : List String) : Asked :=
  match readAll (specsOf name) (fun _ => false) args with
  | .complete inner =>
    match commandOf? name inner with
    | some command =>
      let common := fun long => (inner.value? long).or (outer.value? long)
      .run ⟨common "config", common "log-level", command⟩
    | none => .misuse
  | .ended long => endedBy long
  | _ => .misuse

def readInvocation (args : List String) : Asked :=
  match readAll (versionOption :: commonOptions) isCommandOrHelp args with
  | .operand outer name rest => if name = "help" then readHelp rest else readCommand outer name rest
  | .ended long => endedBy long
  | _ => .misuse

end RowQuery.CommandLine
