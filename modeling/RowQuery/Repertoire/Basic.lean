import RowQuery.Text.Case

/-!
# The repertoire of patterns

Patterns know the characters of edition 16.0 of the character standard; `Text` describes those of
edition 17.0. A character that came later counts as unassigned. Any other has the category, the case
and the variants that `Text` gives it, except for one letter that lost its case.
-/

namespace RowQuery.Repertoire

/-- Characters that edition 17.0 added. -/
def later : Text.Ranges := .ofText <|
  String.join [
    "88F C5C CDC 1ACF-1ADD 1AE0-1AEB 20C1 2B96 A7CE-A7CF A7D2 A7D4 A7F1 FBC3-FBD2 FD90-FD91 ",
    "FDC8-FDCE 10940-10959 10EC5-10EC7 10ED0-10ED8 10EFA-10EFB 11B60-11B67 11DB0-11DDB ",
    "11DE0-11DE9 16EA0-16EB8 16EBB-16ED3 16FF2-16FF6 187F8-187FF 18D09-18D1E 18D80-18DF2 ",
    "1CCFA-1CCFC 1CEBA-1CED0 1CEE0-1CEF0 1E6C0-1E6DE 1E6E0-1E6F5 1E6FE-1E6FF 1F6D8 1F777-1F77A ",
    "1F8D0-1F8D8 1FA54-1FA57 1FA8A 1FA8E 1FAC8 1FACD 1FAEA 1FAEF 1FBFA 2B73A-2B73F 2CEA2-2CEAD ",
    "323B0-33479"]

/-- Whether a code point is none of those that were assigned later. -/
def knows (c : Char) : Bool :=
  c.toNat < 128 || !later.contains c.toNat

/-- The letter that is a small letter in edition 16.0 and has no case since. -/
def formerSmall : Char := '\u0295'

/-! ## Classes -/

def category (c : Char) : Text.Category :=
  if c = formerSmall then .Ll else if knows c then Text.category c else .Cn

def isLower (c : Char) : Bool :=
  c = formerSmall || (knows c && Text.isLower c)

def isUpper (c : Char) : Bool :=
  knows c && Text.isUpper c

/-- Characters that take part in case distinctions. -/
def isCased (c : Char) : Bool :=
  isLower c || isUpper c || category c = .Lt

/-- Characters that a word may contain without ending its case context. -/
def isCaseIgnorable (c : Char) : Bool :=
  knows c && Text.isCaseIgnorable c

def isAlphabetic (c : Char) : Bool :=
  knows c && Text.isAlphabetic c

/-- Characters that extend the one before them. -/
def isExtending (c : Char) : Bool :=
  knows c && Text.isExtending c

/-- Characters of words: letters, marks, decimal digits, connectors and the two joiners. -/
def isWord (c : Char) : Bool :=
  if c.toNat < 128 then c.isAlphanum || c = '_'
  else
    let k := category c
    isAlphabetic c || k.isMark || k = .Nd || k = .Pc || c = '\u200c' || c = '\u200d'

/-! ## Case -/

/-- Lower case of a character; the character itself where that came later. -/
def lowerChars (c : Char) : List Char :=
  let low := Text.lowerChars c
  if (c :: low).all knows then low else [c]

/-- Upper case of a character; the character itself where that came later. -/
def upperChars (c : Char) : List Char :=
  let up := Text.upperChars c
  if (c :: up).all knows then up else [c]

/-- The characters that differ from `c` only in case, as far as they are known. -/
def variants (c : Char) : List Char :=
  if knows c then (Text.variants c).filter knows else [c]

end RowQuery.Repertoire
