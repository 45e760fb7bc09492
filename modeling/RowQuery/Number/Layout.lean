import RowQuery.Number.Shortest

/-!
# Written forms of floats

One printer, `Layout.write`, and the three records that drive it: `tagged` for canonical text,
`plain` for text that is joined to other text, `json` for JSON.
-/

namespace RowQuery.Number

/-- How the shortest digits of a float are laid out. -/
structure Layout where
  /-- Leading decimal exponents that are written positionally; every exponent if none is given. -/
  positional : Option (Int × Int)
  /-- Whether a whole number in positional form ends in `.0`. -/
  pointZero : Bool
  /-- Whether a positive exponent carries a plus sign. -/
  plusSign : Bool
  /-- Choice between two equally near shortest decimals. -/
  tie : Tie

namespace Layout

/-- A point or an exponent always marks a float; 10^16 and 10^-5 take an exponent. -/
def tagged : Layout where
  positional := some (-4, 15)
  pointZero := true
  plusSign := false
  tie := .upper

/-- Positional digits only, and no point behind a whole number. -/
def plain : Layout where
  positional := none
  pointZero := false
  plusSign := false
  tie := .upper

/-- A point or an exponent always marks a float; 10^16 and 10^-6 take an exponent. -/
def json : Layout where
  positional := some (-5, 15)
  pointZero := true
  plusSign := true
  tie := .even

/-- Positional form of `0.digits · 10 ^ point`. -/
def positionalText (layout : Layout) (digits : List Char) (point : Int) : List Char :=
  if point ≤ 0 then ['0', '.'] ++ List.replicate (-point).toNat '0' ++ digits
  else if digits.length ≤ point then
    digits ++ List.replicate (point.toNat - digits.length) '0' ++
      if layout.pointZero then ['.', '0'] else []
  else digits.take point.toNat ++ '.' :: digits.drop point.toNat

/-- Form with an exponent, `d.ddd` and the exponent of the leading digit. -/
def exponentText (layout : Layout) (digits : List Char) (lead : Int) : List Char :=
  let mantissa :=
    match digits with
    | d :: e :: rest => d :: '.' :: e :: rest
    | short => short
  let sign := if lead < 0 then ['-'] else if layout.plusSign then ['+'] else []
  mantissa ++ 'e' :: sign ++ Nat.toDigits 10 lead.natAbs

def isPositional (layout : Layout) (lead : Int) : Bool :=
  match layout.positional with
  | none => true
  | some (least, greatest) => least ≤ lead && lead ≤ greatest

/-- Text of a finite float's magnitude. -/
def magnitude (layout : Layout) (coef : Nat) (exp : Int) : List Char :=
  if coef = 0 then '0' :: if layout.pointZero then ['.', '0'] else []
  else
    let (n, place) := shortest layout.tie coef exp
    let digits := Nat.toDigits 10 n
    let lead := place + digits.length - 1
    if layout.isPositional lead then layout.positionalText digits (lead + 1)
    else layout.exponentText digits lead

def chars (layout : Layout) (x : Float) : List Char :=
  match decode x with
  | .nan => ['N', 'a', 'N']
  | .infinite negative => (if negative then ['-'] else []) ++ ['i', 'n', 'f']
  | .finite negative coef exp => (if negative then ['-'] else []) ++ layout.magnitude coef exp

def write (layout : Layout) (x : Float) : String :=
  String.ofList (layout.chars x)

end Layout

end RowQuery.Number
