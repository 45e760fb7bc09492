import RowQuery.Toml.Basic

/-!
# Tables under construction

Headers and dotted names build tables piece by piece. Each table remembers how it came about, because
that decides what may still be added: a header may name a table once, a dotted name may only extend what
dotted names have made, and a table or array written as a value is closed.
-/

namespace RowQuery.Toml

/-- How a table came about. -/
inductive Origin where
  | header
  /-- Part of the name of a longer header. -/
  | implied
  | dotted
  deriving DecidableEq, Repr, Inhabited

inductive Node where
  /-- A closed value. -/
  | value (v : Toml)
  | table (origin : Origin) (members : List (String × Node))
  /-- Tables that headers between double brackets have made, the last one first. -/
  | tables (items : List (List (String × Node)))

/-- Members of a table under construction. -/
abbrev Members := List (String × Node)

namespace Members

def get? (members : Members) (name : String) : Option Node :=
  members.lookup name

/-- Sets a member; a new one goes to the end. -/
def set (members : Members) (name : String) (node : Node) : Members :=
  match members with
  | [] => [(name, node)]
  | (other, old) :: rest =>
    if other = name then (name, node) :: rest else (other, old) :: set rest name node

/-- Changes the table that the name of a header leads to, through the last of an array of tables. -/
def descend (change : Members → Option Members) : (path : List String) → Members → Option Members
  | [], members => change members
  | name :: path, members =>
    match get? members name with
    | none => do return set members name (.table .implied (← descend change path []))
    | some (.table origin inner) => do
      return set members name (.table origin (← descend change path inner))
    | some (.tables (last :: earlier)) => do
      return set members name (.tables ((← descend change path last) :: earlier))
    | some _ => none

/-- Adds a value under a dotted name. The table around the value has to be one that dotted names have
made, or the one the name starts from. -/
def assign (v : Toml) : (path : List String) → Members → Option Members
  | [], _ => none
  | [name], members =>
    if (get? members name).isSome then none else some (set members name (.value v))
  | name :: path, members =>
    let around := path.length = 1
    match get? members name with
    | none => do return set members name (.table .dotted (← assign v path []))
    | some (.table .dotted inner) => do
      return set members name (.table .dotted (← assign v path inner))
    | some (.table .implied inner) =>
      if around then none
      else do return set members name (.table .implied (← assign v path inner))
    | some (.tables (last :: earlier)) =>
      if around then none
      else do return set members name (.tables ((← assign v path last) :: earlier))
    | some _ => none

/-- Opens a table by its header. -/
def openTable (name : String) (members : Members) : Option Members :=
  match get? members name with
  | none => some (set members name (.table .header []))
  | some (.table .implied inner) => some (set members name (.table .header inner))
  | some _ => none

/-- Opens one more table of an array of tables. -/
def openItem (name : String) (members : Members) : Option Members :=
  match get? members name with
  | none => some (set members name (.tables [[]]))
  | some (.tables items) => some (set members name (.tables ([] :: items)))
  | some _ => none

end Members

mutual

/-- The finished value. -/
def Node.toToml : Node → Toml
  | .value v => v
  | .table _ members => .table (finished members)
  | .tables items => .array (finishedItems items).reverse

def finished : List (String × Node) → List (String × Toml)
  | [] => []
  | (name, node) :: rest => (name, node.toToml) :: finished rest

def finishedItems : List (List (String × Node)) → List Toml
  | [] => []
  | members :: rest => .table (finished members) :: finishedItems rest

end

end RowQuery.Toml
