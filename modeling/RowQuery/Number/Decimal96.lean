import RowQuery.Number.Binary64

/-!
# Decimals with a 96-bit coefficient

A decimal is `± coef / 10 ^ scale` with `coef` below 2^96 and `scale` at most 28. A result that needs
more places is rounded once, a half to the even neighbour, to the most places that fit; where not even
the whole part fits, there is no result.
-/

namespace RowQuery.Number

structure Decimal96 where
  negative : Bool
  coef : Nat
  scale : Nat
  deriving DecidableEq, Repr, Inhabited

namespace Decimal96

/-- First coefficient that is too large. -/
def limit : Nat := 2 ^ 96

def zero : Decimal96 := ⟨false, 0, 0⟩

def isZero (d : Decimal96) : Bool :=
  d.coef = 0

def neg (d : Decimal96) : Decimal96 :=
  { d with negative := !d.negative }

def ofInt64 (n : Int64) : Decimal96 :=
  ⟨n.toInt < 0, n.toInt.natAbs, 0⟩

/-! ## From binary64

The value `m · 2 ^ exp` is carried as `m · 2 ^ e₂ · 10 ^ e₁₀`: `exp` factors of two are traded for
factors of ten, one by one, with bits dropped where the coefficient would grow too large; then the
places beyond the 28th, and the digits beyond binary64's own precision, are rounded away one by one. -/

/-- Trades `count` halves for tenths. -/
def tradeHalves : (count : Nat) → (m : Nat) → (e10 : Int) → Nat × Int
  | 0, m, e10 => (m, e10)
  | count + 1, m, e10 =>
    if m % 2 = 0 then tradeHalves count (m / 2) (e10 + 1)
    else if m * 5 < limit then tradeHalves count (m * 5) e10
    else tradeHalves count (m / 2) (e10 + 1)

/-- Trades `count` doublings for factors of ten. -/
def tradeDoublings : (count : Nat) → (m : Nat) → (e10 : Int) → Option (Nat × Int)
  | 0, m, e10 => some (m, e10)
  | count + 1, m, e10 =>
    if m < 2 ^ 95 then tradeDoublings count (m * 2) (e10 - 1)
    else if e10 * 2 > (count + 1 : Nat) then none
    else tradeDoublings count (m / 5) e10

/-- Multiplies by ten, `count` times. -/
def raise : (count : Nat) → (m : Nat) → Option Nat
  | 0, m => some m
  | count + 1, m => if m * 10 < limit then raise count (m * 10) else none

/-- Drops `count` decimal places, rounding each half up; a coefficient that vanishes ends this. -/
def dropPlaces : (count : Nat) → (m : Nat) → (e10 : Int) → Nat × Int
  | 0, m, e10 => (m, e10)
  | count + 1, m, e10 =>
    let q := m / 10
    if q = 0 then (0, 0)
    else dropPlaces count (if 5 ≤ m % 10 then q + 1 else q) (e10 + 1)

/-- Drops decimal places, `count` at most, while the coefficient has more than 52 bits. -/
def dropExcess : (count : Nat) → (m : Nat) → (e10 : Int) → Nat × Int
  | 0, m, e10 => (m, e10)
  | count + 1, m, e10 =>
    if m < 2 ^ 52 then (m, e10)
    else dropExcess count (if 5 ≤ m % 10 then m / 10 + 1 else m / 10) (e10 + 1)

/-- Drops trailing zeros behind the point, `count` at most. -/
def dropZeros : (count : Nat) → (m : Nat) → (e10 : Int) → Nat × Int
  | 0, m, e10 => (m, e10)
  | count + 1, m, e10 => if m % 10 = 0 then dropZeros count (m / 10) (e10 + 1) else (m, e10)

/-- Decimal for the finite value `± coef · 2 ^ exp`, if its magnitude is not too large. -/
def ofBinary? (negative : Bool) (coef : Nat) (exp : Int) : Option Decimal96 :=
  if coef = 0 then some ⟨negative, 0, 0⟩
  else do
    let (m, e10) := tradeHalves (-exp).toNat coef exp
    let (m, e10) ← tradeDoublings exp.toNat m e10
    let m ← raise e10.toNat m
    let e10 := min e10 0
    let (m, e10) := dropPlaces (-28 - e10).toNat m e10
    let (m, e10) := dropExcess (-e10).toNat m e10
    let (m, e10) := dropZeros (-e10).toNat m e10
    return ⟨negative, m, (-e10).toNat⟩

def ofFloat? (x : Float) : Option Decimal96 :=
  match decode x with
  | .finite negative coef exp => ofBinary? negative coef exp
  | _ => none

/-! ## Arithmetic -/

/-- Rounds `coef / 10 ^ scale` after dropping the fewest places, starting at `k` of them. -/
def fitFrom (coef scale : Nat) : (tries : Nat) → (k : Nat) → Option (Nat × Nat)
  | 0, _ => none
  | tries + 1, k =>
    let q := divEven coef (10 ^ k)
    if q < limit then some (q, scale - k) else fitFrom coef scale tries (k + 1)

/-- The decimal nearest to `± coef / 10 ^ scale` that keeps the most places. -/
def fit (negative : Bool) (coef scale : Nat) : Option Decimal96 :=
  let k := scale - 28
  (fitFrom coef scale (scale + 1 - k) k).map fun (coef, scale) => ⟨negative, coef, scale⟩

/-- Coefficient with its sign, at a scale that is not below the decimal's own. -/
def atScale (d : Decimal96) (scale : Nat) : Int :=
  let n : Int := (d.coef * 10 ^ (scale - d.scale) : Nat)
  if d.negative then -n else n

/-- Sum, if its whole part fits. -/
def add? (a b : Decimal96) : Option Decimal96 :=
  if a.isZero then some b
  else if b.isZero then some a
  else
    let scale := max a.scale b.scale
    let sum := a.atScale scale + b.atScale scale
    fit (sum < 0) sum.natAbs scale

def sub? (a b : Decimal96) : Option Decimal96 :=
  a.add? b.neg

def mul? (a b : Decimal96) : Option Decimal96 :=
  if a.isZero || b.isZero then some zero
  else fit (a.negative != b.negative) (a.coef * b.coef) (a.scale + b.scale)

/-- Remainder of the division that truncates; it takes the sign of `a`. -/
def rem (a b : Decimal96) : Decimal96 :=
  if a.isZero then zero
  else
    let scale := max a.scale b.scale
    ⟨a.negative, (a.atScale scale).natAbs % (b.atScale scale).natAbs, scale⟩

/-- Greatest number of places, `x` at most, by which `q` can still grow. -/
def roomFor (q : Nat) : (x : Nat) → Nat
  | 0 => 0
  | x + 1 => if limit ≤ q * 10 ^ (x + 1) then roomFor q x else x + 1

/-- Places, nine at most, that a quotient `q` of scale `scale` can still take. -/
def roomAt? (q : Nat) (scale : Int) : Option Nat :=
  let x := roomFor q (min 9 (28 - scale)).toNat
  if x < 9 ∧ (x : Int) + scale < 0 then none else some x

/-- A quotient under long division: digits so far, scale, and whether places were cut. -/
structure Quotient where
  coef : Nat
  scale : Int
  inexact : Bool

/-- Rounds the last digit of a quotient by the remainder `r` of the division by `den`. -/
def roundLast? (q : Nat) (scale : Int) (r den : Nat) : Option Quotient :=
  if den < 2 * r ∨ (2 * r = den ∧ q % 2 = 1) then
    if q + 1 < limit then some ⟨q + 1, scale, true⟩
    else if scale ≤ 0 then none
    else some ⟨(q + 1) / 10 + 1, scale - 1, true⟩
  else some ⟨q, scale, true⟩

/-- Long division by `den`, up to nine places a step, until it comes out or no room is left. -/
def divideOn (den : Nat) : (steps : Nat) → (q : Nat) → (scale : Int) → (r : Nat) → (inexact : Bool) →
    Option Quotient
  | 0, q, scale, _, inexact => some ⟨q, scale, inexact⟩
  | steps + 1, q, scale, r, inexact =>
    if r = 0 ∧ 0 ≤ scale then some ⟨q, scale, inexact⟩
    else do
      let places ← if r = 0 then some (min 9 (-scale)).toNat
        else if scale < 28 then roomAt? q scale else some 0
      if r ≠ 0 ∧ places = 0 then roundLast? q scale r den
      else
        let q := q * 10 ^ places
        if limit ≤ q then none
        else
          let r' := r * 10 ^ places
          divideOn den steps (q + r' / den) (scale + places) (r' % den) (inexact || r != 0)

/-- Strips `places` zeros from the end once, where that many are there. -/
def strip (places : Nat) : Nat × Nat → Nat × Nat
  | (coef, scale) =>
    if places ≤ scale ∧ coef % 10 ^ places = 0 then (coef / 10 ^ places, scale - places)
    else (coef, scale)

/-- Strips eight zeros at a time, `tries` times at most, while the low 32 bits are zero. -/
def stripWords : (tries : Nat) → Nat × Nat → Nat × Nat
  | 0, q => q
  | tries + 1, (coef, scale) =>
    if 8 ≤ scale ∧ coef % 2 ^ 32 = 0 ∧ coef % 10 ^ 8 = 0 then
      stripWords tries (coef / 10 ^ 8, scale - 8)
    else (coef, scale)

/-- Quotient by a divisor that is not zero, if it fits. -/
def div? (a b : Decimal96) : Option Decimal96 :=
  if a.isZero then some zero
  else do
    let scale : Int := a.scale - b.scale
    let q ← divideOn b.coef 64 (a.coef / b.coef) scale (a.coef % b.coef) false
    let (coef, scale) :=
      if q.inexact then
        strip 1 (strip 2 (strip 4 (stripWords 4 (q.coef, q.scale.toNat))))
      else (q.coef, q.scale.toNat)
    return ⟨a.negative != b.negative, coef, scale⟩

/-! ## To integers and binary64 -/

/-- The value, where it is whole. -/
def toInt? (d : Decimal96) : Option Int :=
  if d.coef % 10 ^ d.scale = 0 then
    let n : Int := (d.coef / 10 ^ d.scale : Nat)
    some (if d.negative then -n else n)
  else none

/-- Binary64 number for a decimal: the whole part and the fraction are converted apart, and their sum
is rounded to the decimal's places in binary64 arithmetic. -/
def toFloat (d : Decimal96) : Float :=
  if d.scale = 0 then ofRatio d.negative d.coef 1
  else
    let power := 10 ^ d.scale
    let whole := ofNat (d.coef / power)
    let fraction := ofNat (d.coef % power) / ofNat power
    let magnitude :=
      if Number.isZero fraction then whole
      else
        let t := powNat 10.0 d.scale
        round ((whole + fraction) * t) / t
    if d.negative then Number.neg magnitude else magnitude

end Decimal96

end RowQuery.Number
