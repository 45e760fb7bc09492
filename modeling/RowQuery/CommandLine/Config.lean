import RowQuery.Text.Case
import RowQuery.Toml.Parser

/-!
# Settings

A settings file has three sections, `query`, `log` and `source`; what it does not name keeps its default,
and names that it should not have are passed over. A section may also be written as an array of its
settings in order.
-/

namespace RowQuery

/-- How much is logged. -/
inductive LogLevel where
  | off
  | error
  | warn
  | info
  | debug
  | trace
  deriving DecidableEq, Repr, Inhabited

inductive ConfigError where
  /-- A file that cannot be read. -/
  | unreadable (path reason : String)
  | malformed
  | unknownLevel (name : String)
  deriving DecidableEq, Repr, Inhabited

def ConfigError.message : ConfigError → String
  | unreadable path reason => "cannot read " ++ path ++ ": " ++ reason
  | malformed => "invalid config: no settings can be read"
  | unknownLevel name =>
    "unknown log level '" ++ name ++ "' (expected error, warn, info, debug or trace)"

/-- The level with a name, in letters of either case. -/
def LogLevel.ofName (name : String) : Except ConfigError LogLevel :=
  let lower := Text.asciiLower name
  if lower = "off" then .ok off
  else if lower = "error" then .ok error
  else if lower = "warn" then .ok warn
  else if lower = "info" then .ok info
  else if lower = "debug" then .ok debug
  else if lower = "trace" then .ok trace
  else .error (.unknownLevel name)

structure Config where
  /-- Whether where-clauses may run at the store. -/
  pushdown : Bool := true
  /-- Name of a log level. -/
  level : String := "warn"
  /-- File with the data. -/
  data : Option String := none
  table : Option String := none
  partition : Option String := none
  deriving Repr, Inhabited

namespace Config

/-- Settings of a section whose names in order are `names`. -/
def settings (names : List String) : Toml → Option (List (String × Toml))
  | .table members => some members
  | .array items => some (names.zip items)
  | .datetime _ => some []
  | _ => none

/-- Settings of a section that may be missing. -/
def section? (root : List (String × Toml)) (name : String) (names : List String) :
    Option (List (String × Toml)) :=
  match root.lookup name with
  | none => some []
  | some v => settings names v

/-- A setting of one kind, or its default. -/
def setting? {α : Type} (read : Toml → Option α) (default : α) (settings : List (String × Toml))
    (name : String) : Option α :=
  match settings.lookup name with
  | none => some default
  | some v => read v

def bool? : Toml → Option Bool
  | .bool b => some b
  | _ => none

def text? : Toml → Option String
  | .str s => some s
  | _ => none

def ofToml? (root : List (String × Toml)) : Option Config := do
  let query ← section? root "query" ["pushdown"]
  let log ← section? root "log" ["level"]
  let source ← section? root "source" ["data", "table", "partition"]
  let optional := setting? (fun v => (text? v).map some) none source
  return {
    pushdown := ← setting? bool? true query "pushdown"
    level := ← setting? text? "warn" log "level"
    data := ← optional "data"
    table := ← optional "table"
    partition := ← optional "partition" }

/-- Settings of a file's text; the log level must be known. -/
def parse (text : String) : Except ConfigError Config :=
  match (Toml.parse? text).bind ofToml? with
  | none => .error .malformed
  | some config => do
    let _ ← LogLevel.ofName config.level
    return config

end Config

end RowQuery
