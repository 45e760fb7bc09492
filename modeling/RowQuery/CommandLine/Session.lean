import RowQuery.CommandLine.Invocation
import RowQuery.CommandLine.Report

/-!
# One run of the tool

`run` turns arguments into what is printed. It reads files and the standard input through the operations
of its `World`, each at most once, and only when they are needed.
-/

namespace RowQuery.CommandLine

/-- What the tool sees of the world. A file that cannot be read gives a reason. -/
structure World (m : Type → Type) where
  fileText : String → m (Except String String)
  inputText : m String
  /-- Settings file of the environment. -/
  configPath : Option String

structure Printed where
  code : Nat := 0
  out : String := ""
  err : String := ""

def programName : String := "tq"

def version : String := "0.1.0"

def usage : String :=
  "Usage: " ++ programName ++ " [--config FILE] [--log-level LEVEL] query|compile|check ...\n"

/-- Result of a command that went well. -/
def printedLine (text : String) : Printed := { out := text ++ "\n" }

/-- What is printed for a failure. -/
def printedFailure : Failure CommandError → Printed
  | .error e => { code := 1, err := e.message ++ "\n" }
  | .overflow operation => { code := 134, err := operation.message ++ "\n" }

variable {m : Type → Type} [Monad m]

/-- A step that does not touch the world. -/
def liftRun {α : Type} (r : Run CommandError α) : ExceptT (Failure CommandError) m α :=
  ExceptT.mk (pure r)

/-- Settings of a run: those of the file, and the log level has to be known. -/
def loadConfig (w : World m) (i : Invocation) : ExceptT (Failure CommandError) m Config := do
  let config ←
    match i.config.or w.configPath with
    | none => pure {}
    | some path =>
      match ← w.fileText path with
      | .error reason => throw (.error (.config (.unreadable path reason)))
      | .ok text => liftRun (Run.lift ((Config.parse text).mapError .config))
  let _ ← liftRun (Run.lift ((LogLevel.ofName (i.logLevel.getD config.level)).mapError .config))
  return config

/-- Text of the data: a file, or the standard input. -/
def readData (w : World m) (path : Option String) : ExceptT (Failure CommandError) m String := do
  match path with
  | none => w.inputText
  | some path =>
    match ← w.fileText path with
    | .ok text => return text
    | .error reason => throw (.error (.io reason))

/-- The query of a command line, where settings fill what it leaves open. -/
def queryCommand (config : Config) (o : QueryOptions) (data : String) : QueryCommand where
  data := some data
  table := o.table.or config.table
  partition := o.partition.or config.partition
  filter := o.filter
  ofType := o.ofType
  distinct := o.distinct
  orderBy := o.orderBy
  skip := o.skip
  take := o.take
  skipWhile := o.skipWhile
  takeWhile := o.takeWhile
  select := o.select
  count := o.count
  pushdown := config.pushdown && !o.noPushdown

def printedQuery (pretty : Bool) : QueryOutput → Printed
  | .count n => printedLine n.repr
  | .rows json => printedLine (if pretty then json.indented else json.compact)

def printedCompile : CompileOutput → Printed
  | .remote filter => printedLine filter
  | outcome => { err := outcome.message ++ "\n" }

def printedCheck (c : CheckOutput) : Printed :=
  printedLine ("Syntax is valid (" ++ Text.joinWith ", " c.params ++ " => " ++ c.body ++ ")")

def runCommand (w : World m) (i : Invocation) : ExceptT (Failure CommandError) m Printed := do
  let config ← loadConfig w i
  match i.command with
  | .query o => do
    let data ← readData w (o.data.or config.data)
    liftRun ((query (queryCommand config o data)).map (printedQuery o.pretty))
  | .compile expr => liftRun (Run.lift ((compile expr).map printedCompile))
  | .check expr => liftRun (Run.lift ((check expr).map printedCheck))

/-- One run of the tool. A misuse of the command line has code 2. -/
def run (w : World m) (args : List String) : m Printed :=
  match readInvocation args with
  | .misuse => pure { code := 2, err := usage }
  | .help => pure { out := usage }
  | .version => pure (printedLine (programName ++ " " ++ version))
  | .run i => do
    match ← (runCommand w i).run with
    | .ok printed => return printed
    | .error e => return printedFailure e

end RowQuery.CommandLine
