import RowQuery.Number.Rounding

/-!
# Binary64 numbers as exact values

A finite float is `± coef · 2 ^ exp`. `decode` takes a float apart, `ofRatio` finds the float nearest to
a quotient of naturals (a half goes to the even neighbour), and the operations that core keeps out of
sight of proofs — comparison through an integer key, rounding to whole numbers, remainder, conversion
from and to integers — are defined from these two.
-/

namespace RowQuery.Number

/-- A float taken apart. -/
inductive Decoded where
  | nan
  | infinite (negative : Bool)
  /-- The value `± coef · 2 ^ exp`. -/
  | finite (negative : Bool) (coef : Nat) (exp : Int)
  deriving DecidableEq, Repr, Inhabited

/-- Bits of positive infinity. -/
def infinityBits : Nat := 2047 * 2 ^ 52

def signBit (negative : Bool) : Nat :=
  if negative then 2 ^ 63 else 0

def decode (x : Float) : Decoded :=
  let bits := x.toBits.toNat
  let negative : Bool := 2 ^ 63 ≤ bits
  let magnitude := bits % 2 ^ 63
  let biased : Nat := magnitude / 2 ^ 52
  let fraction : Nat := magnitude % 2 ^ 52
  if biased = 2047 then if fraction = 0 then .infinite negative else .nan
  else if biased = 0 then .finite negative fraction (-1074)
  else .finite negative (2 ^ 52 + fraction) (biased - 1075)

/-- The float with the given sign and the given bits behind it. -/
def ofMagnitude (negative : Bool) (magnitude : Nat) : Float :=
  Float.ofBits (UInt64.ofNat (signBit negative + magnitude))

def infinity (negative : Bool) : Float :=
  ofMagnitude negative infinityBits

def nan : Float :=
  ofMagnitude false (infinityBits + 2 ^ 51)

/-- The whole number of times that `2 ^ exp` goes into `num / den`, as a quotient of naturals. -/
def scaled (num den : Nat) (exp : Int) : Nat × Nat :=
  (num * 2 ^ (-exp).toNat, den * 2 ^ exp.toNat)

/-- Binary exponent of a positive quotient: `2 ^ log2Ratio ≤ num / den < 2 ^ (log2Ratio + 1)`. -/
def log2Ratio (num den : Nat) : Int :=
  let e : Int := num.log2 - den.log2
  let (n, d) := scaled num den e
  if d ≤ n then e else e - 1

/-- Bits of the magnitude nearest to `num / den`. -/
def ratioBits (num den : Nat) : Nat :=
  if num = 0 then 0
  else
    let exp := max (log2Ratio num den - 52) (-1074)
    let (n, d) := scaled num den exp
    min ((exp + 1074).toNat * 2 ^ 52 + divEven n d) infinityBits

/-- The float nearest to `± num / den`. -/
def ofRatio (negative : Bool) (num den : Nat) : Float :=
  ofMagnitude negative (ratioBits num den)

def ofNat (n : Nat) : Float :=
  ofRatio false n 1

def ofInt (n : Int) : Float :=
  ofRatio (n < 0) n.natAbs 1

def ofInt64 (n : Int64) : Float :=
  ofInt n.toInt

/-- The float nearest to `± coef · 10 ^ exp`. -/
def ofDecimal (negative : Bool) (coef : Nat) (exp : Int) : Float :=
  if coef = 0 then ofMagnitude negative 0
  else
    let lead : Int := (Nat.toDigits 10 coef).length + exp
    if lead < -330 then ofMagnitude negative 0
    else if 310 < lead then infinity negative
    else ofRatio negative (coef * 10 ^ exp.toNat) (10 ^ (-exp).toNat)

def isNaN (x : Float) : Bool :=
  decode x = .nan

def isFinite (x : Float) : Bool :=
  match decode x with
  | .finite .. => true
  | _ => false

/-! ## Comparison

Floats that are not NaN are ordered as the integers `key`; both zeros have key 0. -/

def key (x : Float) : Int :=
  let bits := x.toBits.toNat
  let magnitude : Int := (bits % 2 ^ 63 : Nat)
  if 2 ^ 63 ≤ bits then -magnitude else magnitude

/-- Order of two floats; NaN compares with nothing. -/
def compare? (x y : Float) : Option Ordering :=
  if isNaN x || isNaN y then none else some (Ord.compare (key x) (key y))

/-- Equality of values: zeros are equal, and NaN equals nothing. -/
def same (x y : Float) : Bool :=
  !isNaN x && !isNaN y && key x = key y

def isZero (x : Float) : Bool :=
  key x = 0

/-! ## Signs -/

def abs (x : Float) : Float :=
  Float.ofBits (UInt64.ofNat (x.toBits.toNat % 2 ^ 63))

def neg (x : Float) : Float :=
  if isNaN x then x else ofMagnitude (x.toBits.toNat < 2 ^ 63) (x.toBits.toNat % 2 ^ 63)

/-! ## Whole numbers -/

/-- Rounds to a whole number, which `pick negative n d` chooses next to `n / d`; the sign stays. -/
def roundBy (pick : Bool → Nat → Nat → Nat) (x : Float) : Float :=
  match decode x with
  | .finite negative coef exp =>
    if 0 ≤ exp then x else ofRatio negative (pick negative coef (2 ^ (-exp).toNat)) 1
  | _ => x

def trunc : Float → Float :=
  roundBy fun _ n d => n / d

def floor : Float → Float :=
  roundBy fun negative n d => if negative then divCeil n d else n / d

def ceil : Float → Float :=
  roundBy fun negative n d => if negative then n / d else divCeil n d

/-- Nearest whole number; a half goes away from zero. -/
def round : Float → Float :=
  roundBy fun _ n d => divHalfUp n d

/-- Whether a float is a whole number. -/
def isWhole (x : Float) : Bool :=
  match decode x with
  | .finite _ coef exp => coef % 2 ^ (-exp).toNat = 0
  | _ => false

/-- Whole part of a finite float; 0 for the others. -/
def wholePart (x : Float) : Int :=
  match decode x with
  | .finite negative coef exp =>
    let whole : Int := (coef * 2 ^ exp.toNat / 2 ^ (-exp).toNat : Nat)
    if negative then -whole else whole
  | _ => 0

/-- Whole part, kept between `least` and `greatest`; NaN gives 0. -/
def clampedPart (least greatest : Int) (x : Float) : Int :=
  match decode x with
  | .nan => 0
  | .infinite negative => if negative then least else greatest
  | .finite .. => max least (min greatest (wholePart x))

def toInt64 (x : Float) : Int64 :=
  Int64.ofInt (clampedPart (-2 ^ 63) (2 ^ 63 - 1) x)

/-! ## Remainder and powers -/

/-- Remainder of the division that truncates; it takes the sign of `x`. -/
def fmod (x y : Float) : Float :=
  match decode x, decode y with
  | .nan, _ | _, .nan | .infinite _, _ => nan
  | .finite .., .infinite _ => x
  | .finite negative a ea, .finite _ b eb =>
    if b = 0 then nan
    else
      let low := min ea eb
      let r := (a * 2 ^ (ea - low).toNat) % (b * 2 ^ (eb - low).toNat)
      ofRatio negative (r * 2 ^ low.toNat) (2 ^ (-low).toNat)

/-- Product of the squares of `base` that the binary digits of `n` select, `steps` digits at most. -/
def powLoop : (steps : Nat) → (product base : Float) → (n : Nat) → Float
  | 0, product, _, _ => product
  | steps + 1, product, base, n =>
    let product := if n % 2 = 1 then product * base else product
    if n / 2 = 0 then product else powLoop steps product (base * base) (n / 2)

/-- Power by repeated squaring in binary64 arithmetic. -/
def powNat (base : Float) (n : Nat) : Float :=
  powLoop (n.log2 + 1) 1.0 base n

/-- Power with an integer exponent; a negative one divides 1 by the power. -/
def powInt (base : Float) (n : Int) : Float :=
  if n < 0 then 1.0 / powNat base n.natAbs else powNat base n.natAbs

end RowQuery.Number
