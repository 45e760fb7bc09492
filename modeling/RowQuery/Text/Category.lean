import RowQuery.Text.CategoryRuns
import RowQuery.Text.Run

/-!
# General category of a character
-/

namespace RowQuery.Text

/-- General categories, in the order of their two-letter codes' major classes. -/
inductive Category where
  | Lu | Ll | Lt | Lm | Lo
  | Mn | Mc | Me
  | Nd | Nl | No
  | Pc | Pd | Ps | Pe | Pi | Pf | Po
  | Sm | Sc | Sk | So
  | Zs | Zl | Zp
  | Cc | Cf | Cs | Co | Cn
  deriving DecidableEq, Repr, Inhabited

namespace Category

def all : List Category :=
  [Lu, Ll, Lt, Lm, Lo, Mn, Mc, Me, Nd, Nl, No, Pc, Pd, Ps, Pe, Pi, Pf, Po, Sm, Sc, Sk, So,
    Zs, Zl, Zp, Cc, Cf, Cs, Co, Cn]

/-- Two-letter code of a category. -/
def code : Category → String
  | Lu => "Lu" | Ll => "Ll" | Lt => "Lt" | Lm => "Lm" | Lo => "Lo"
  | Mn => "Mn" | Mc => "Mc" | Me => "Me"
  | Nd => "Nd" | Nl => "Nl" | No => "No"
  | Pc => "Pc" | Pd => "Pd" | Ps => "Ps" | Pe => "Pe" | Pi => "Pi" | Pf => "Pf" | Po => "Po"
  | Sm => "Sm" | Sc => "Sc" | Sk => "Sk" | So => "So"
  | Zs => "Zs" | Zl => "Zl" | Zp => "Zp"
  | Cc => "Cc" | Cf => "Cf" | Cs => "Cs" | Co => "Co" | Cn => "Cn"

def ofCode? (code : String) : Option Category :=
  all.find? (·.code = code)

def isLetter : Category → Bool
  | Lu | Ll | Lt | Lm | Lo => true
  | _ => false

def isMark : Category → Bool
  | Mn | Mc | Me => true
  | _ => false

def isNumber : Category → Bool
  | Nd | Nl | No => true
  | _ => false

def isPunctuation : Category → Bool
  | Pc | Pd | Ps | Pe | Pi | Pf | Po => true
  | _ => false

def isSymbol : Category → Bool
  | Sm | Sc | Sk | So => true
  | _ => false

def isSeparator : Category → Bool
  | Zs | Zl | Zp => true
  | _ => false

/-- Controls, format characters, surrogates, private use and unassigned code points. -/
def isOther : Category → Bool
  | Cc | Cf | Cs | Co | Cn => true
  | _ => false

end Category

/-- Category and length of each run of code points, from code point 0 on. -/
def categoryTable : List (Category × Nat) :=
  (readRuns categoryRuns).map fun run => ((Category.ofCode? run.code).getD .Cn, run.length)

/-- General category of a character. -/
def category (c : Char) : Category :=
  (entryAt? categoryTable c.toNat).getD .Cn

end RowQuery.Text
