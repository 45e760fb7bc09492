/-!
# Arguments

Options have a long name behind two hyphens, and perhaps a letter behind one; letters may be joined.
A value stands behind its option, or is attached to it, after an equals sign or right behind the letter.
Behind a lone `--` nothing is an option any more. An option stands once, unless it may be repeated.
-/

namespace RowQuery.CommandLine

structure OptionSpec where
  long : String
  short : Option Char := none
  takesValue : Bool := true
  repeats : Bool := false
  /-- Whether the option ends the reading, so that nothing else counts. -/
  ends : Bool := false
  /-- Whether a text can be its value. -/
  accepts : String → Bool := fun _ => true

/-- What was read: options with their values in order, and the other arguments. -/
structure Given where
  options : List (String × String) := []
  operands : List String := []

namespace Given

def has (g : Given) (name : String) : Bool :=
  g.options.any (·.1 = name)

def valuesOf (g : Given) (name : String) : List String :=
  (g.options.filter (·.1 = name)).map (·.2)

def value? (g : Given) (name : String) : Option String :=
  (g.valuesOf name).head?

end Given

/-- Result of reading arguments; every misuse is one and the same. -/
inductive Reading where
  | complete (given : Given)
  /-- The first operand was one that ends the reading, with the arguments behind it. -/
  | operand (given : Given) (word : String) (rest : List String)
  /-- An option that ends the reading. -/
  | ended (long : String)
  | misuse

/-- State between two arguments. -/
structure Progress where
  given : Given := {}
  /-- An option that waits for its value. -/
  pending : Option OptionSpec := none
  /-- Whether a lone `--` was read. -/
  literal : Bool := false

/-- Outcome of reading a part of the arguments. -/
inductive Outcome where
  | next (p : Progress)
  | ended (long : String)
  | misuse

/-- Notes an option with its value. -/
def Progress.note (p : Progress) (spec : OptionSpec) (value : String) : Outcome :=
  if (p.given.has spec.long && !spec.repeats) || !spec.accepts value then .misuse
  else
    let options := p.given.options ++ [(spec.long, value)]
    .next { p with given := { p.given with options := options }, pending := none }

/-- An option without an attached value. -/
def Progress.plain (p : Progress) (spec : OptionSpec) : Outcome :=
  if spec.ends then .ended spec.long
  else if spec.takesValue then .next { p with pending := some spec }
  else p.note spec ""

/-- An option by its long name, with what stands behind an equals sign. -/
def readLong (specs : List OptionSpec) (p : Progress) (body : List Char) : Outcome :=
  let name := String.ofList (body.takeWhile (· ≠ '='))
  match specs.find? (·.long = name), body.dropWhile (· ≠ '=') with
  | none, _ => .misuse
  | some spec, [] => p.plain spec
  | some spec, _ :: value =>
    if spec.takesValue then p.note spec (String.ofList value) else .misuse

/-- Options by their letters; what stands behind the letter of an option that takes a value is the value,
without an equals sign in front. -/
def readLetters (specs : List OptionSpec) (p : Progress) : List Char → Outcome
  | [] => .next p
  | c :: rest =>
    match specs.find? (·.short = some c) with
    | none => .misuse
    | some spec =>
      if spec.takesValue then
        match rest with
        | [] => p.plain spec
        | '=' :: value => p.note spec (String.ofList value)
        | value => p.note spec (String.ofList value)
      else
        match p.plain spec with
        | .next p => readLetters specs p rest
        | outcome => outcome

/-- Whether an argument has the form of an option. -/
def isOptionLike : List Char → Bool
  | '-' :: _ :: _ => true
  | _ => false

/-- Reads arguments; `stops` tells the operands that end the reading. -/
def readArguments (specs : List OptionSpec) (stops : String → Bool) (p : Progress) :
    List String → Reading
  | [] => if p.pending.isSome then .misuse else .complete p.given
  | arg :: rest =>
    let cs := arg.toList
    if !p.literal && isOptionLike cs then
      if p.pending.isSome then .misuse
      else if cs = ['-', '-'] then readArguments specs stops { p with literal := true } rest
      else
        let outcome :=
          match cs with
          | '-' :: '-' :: body => readLong specs p body
          | body => readLetters specs p body.tail
        match outcome with
        | .next p => readArguments specs stops p rest
        | .ended long => .ended long
        | .misuse => .misuse
    else
      match p.pending with
      | some spec =>
        match p.note spec arg with
        | .next p => readArguments specs stops p rest
        | .ended long => .ended long
        | .misuse => .misuse
      | none =>
        if !p.literal && stops arg then .operand p.given arg rest
        else
          let operands := p.given.operands ++ [arg]
          readArguments specs stops { p with given := { p.given with operands := operands } } rest

/-- Reads all arguments from the start. -/
def readAll (specs : List OptionSpec) (stops : String → Bool) (args : List String) : Reading :=
  readArguments specs stops {} args

end RowQuery.CommandLine
