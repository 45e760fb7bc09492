import RowQuery.CommandLine.Session

/-!
# The command line tool
-/

open RowQuery CommandLine

/-- Reason for which a file cannot be read. -/
def failureReason : IO.Error → String
  | .noFileOrDirectory .. => "No such file or directory (os error 2)"
  | .permissionDenied .. => "Permission denied (os error 13)"
  | e => e.toString

/-- The rest of a stream behind `text`. -/
partial def readRest (input : IO.FS.Stream) (text : String) : IO String := do
  let line ← input.getLine
  if line.isEmpty then return text else readRest input (text ++ line)

/-- The world outside. -/
def outside (configPath : Option String) : World IO where
  fileText path := do
    try
      return .ok (← IO.FS.readFile path)
    catch e =>
      return .error (failureReason e)
  inputText := do readRest (← IO.getStdin) ""
  configPath := configPath

def main (args : List String) : IO UInt32 := do
  let printed ← run (outside (← IO.getEnv "TQ_CONFIG")) args
  IO.print printed.out
  IO.eprint printed.err
  return printed.code.toUInt32
