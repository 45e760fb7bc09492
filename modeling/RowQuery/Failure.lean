/-!
# Outcomes of a computation

A computation ends in a value, in an error that its callers may make into one of their own, or in an
overflow of decimal arithmetic, which stops everything: no caller turns it into another error.
-/

namespace RowQuery

/-- The decimal operation whose result left the range. -/
inductive Overflow where
  | addition
  | subtraction
  deriving DecidableEq, Repr, Inhabited

def Overflow.message : Overflow → String
  | addition => "Addition overflowed"
  | subtraction => "Subtraction overflowed"

inductive Failure (ε : Type) where
  | error (cause : ε)
  | overflow (operation : Overflow)
  deriving DecidableEq, Repr, Inhabited

/-- Outcome of a computation whose own errors are of type `ε`. -/
abbrev Run (ε α : Type) := Except (Failure ε) α

variable {ε δ α : Type}

/-- Makes an error into one of the caller's. -/
def Failure.map (f : ε → δ) : Failure ε → Failure δ
  | error cause => error (f cause)
  | overflow operation => overflow operation

namespace Run

def fail (cause : ε) : Run ε α :=
  .error (.error cause)

def mapError (f : ε → δ) : Run ε α → Run δ α
  | .ok a => .ok a
  | .error e => .error (e.map f)

/-- A computation that cannot overflow. -/
def lift : Except ε α → Run ε α
  | .ok a => .ok a
  | .error cause => fail cause

end Run

end RowQuery
