import RowQuery.Number.Binary64

/-!
# Shortest decimal digits

The decimals that read back as a given float form an interval around it, which contains its ends when
the float's coefficient is even. `shortest` finds the decimal `digits · 10 ^ exp` in that interval with
the fewest digits, and of those the one nearest to the float.
-/

namespace RowQuery.Number

/-- Which of two equally near decimals is taken. -/
inductive Tie where
  | upper
  | even
  deriving DecidableEq, Repr, Inhabited

/-- Whether a tie between `n` and `n + 1` goes to `n + 1`. -/
def Tie.takesUpper : Tie → Nat → Bool
  | .upper, _ => true
  | .even, n => n % 2 = 1

/-- The interval of values that round to one float, in quarters of the float's last place. -/
structure Around where
  /-- The float is `mid · 2 ^ exp`. -/
  mid : Nat
  low : Nat
  high : Nat
  exp : Int
  /-- Whether the two ends round to the float as well. -/
  closed : Bool

/-- Interval around the positive float `coef · 2 ^ exp`. Below a power of two the floats lie twice as
dense. -/
def around (coef : Nat) (exp : Int) : Around where
  mid := 4 * coef
  low := 4 * coef - if coef = 2 ^ 52 ∧ -1074 < exp then 1 else 2
  high := 4 * coef + 2
  exp := exp - 2
  closed := coef % 2 = 0

namespace Around

/-- Both sides of a comparison of `n · 10 ^ place` with `m · 2 ^ exp`, as naturals. -/
def sides (a : Around) (n : Nat) (place : Int) (m : Nat) : Nat × Nat :=
  (n * 10 ^ place.toNat * 2 ^ (-a.exp).toNat, m * 2 ^ a.exp.toNat * 10 ^ (-place).toNat)

/-- Whether `n · 10 ^ place` reads back as the float. -/
def holds (a : Around) (n : Nat) (place : Int) : Bool :=
  let (x, low) := a.sides n place a.low
  let (_, high) := a.sides n place a.high
  if a.closed then low ≤ x && x ≤ high else low < x && x < high

/-- Greatest `n` with `n · 10 ^ place` at or below the float. -/
def below (a : Around) (place : Int) : Nat :=
  let (one, mid) := a.sides 1 place a.mid
  mid / one

/-- Of the neighbours `n` and `n + 1` on the grid of `place`, whether the upper one is nearer to the
float; `tie` decides when neither is. -/
def upperNearer (a : Around) (tie : Tie) (n : Nat) (place : Int) : Bool :=
  let (one, mid) := a.sides 1 place a.mid
  let r := mid - n * one
  one < 2 * r || (one = 2 * r && tie.takesUpper n)

/-- The decimal on the grid of `place` that reads back, the nearer one if two do. -/
def onGrid? (a : Around) (tie : Tie) (place : Int) : Option Nat :=
  let n := a.below place
  match a.holds n place, a.holds (n + 1) place with
  | true, true => some (if a.upperNearer tie n place then n + 1 else n)
  | true, false => some n
  | false, true => some (n + 1)
  | false, false => none

/-- The first hit on the grids from `place` downwards. -/
def search (a : Around) (tie : Tie) : (grids : Nat) → (place : Int) → Nat × Int
  | 0, place => (a.below place, place)
  | grids + 1, place =>
    match a.onGrid? tie place with
    | some n => (n, place)
    | none => a.search tie grids (place - 1)

end Around

/-- A decimal place above the leading digit of `coef · 2 ^ exp`. -/
def leadingPlace (coef : Nat) (exp : Int) : Int :=
  (((coef.log2 : Int) + exp) * 30103) / 100000 + 2

/-- Digits and exponent of the shortest decimal that reads back as the positive float
`coef · 2 ^ exp`. -/
def shortest (tie : Tie) (coef : Nat) (exp : Int) : Nat × Int :=
  (around coef exp).search tie 21 (leadingPlace coef exp)

end RowQuery.Number
