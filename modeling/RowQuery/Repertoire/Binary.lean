import RowQuery.Repertoire.Basic
import RowQuery.Repertoire.BinaryRanges

/-!
# Binary properties

Properties that a character has or lacks. `binaryProperties` lists them with their names; the
definitions before it derive those that follow from a category, a case mapping or other properties.
-/

namespace RowQuery.Repertoire

/-- Test for the characters of a table. -/
def within (spans : Text.Ranges) (c : Char) : Bool :=
  spans.contains c.toNat

/-! ## Marks and symbols -/

/-- Dashes that are not punctuation. -/
def furtherDashes : Text.Ranges := .ofText <|
  "2053 207B 208B 2212"

def isDash (c : Char) : Bool :=
  category c = .Pd || within furtherDashes c

/-- Hexadecimal digits of full width. -/
def wideHexDigits : Text.Ranges := .ofText <|
  "FF10-FF19 FF21-FF26 FF41-FF46"

def isHexDigit (c : Char) : Bool :=
  within asciiHexDigits c || within wideHexDigits c

def isMath (c : Char) : Bool :=
  category c = .Sm || within furtherMath c

def isIdeographic (c : Char) : Bool :=
  within unifiedIdeographs c || within furtherIdeographs c

/-- Punctuation that ends a sentence or a part of one. -/
def isTerminal (c : Char) : Bool :=
  within sentenceEnds c || within furtherTerminals c

/-- Code points that never stand for a character: a block of them, and the last two of each plane. -/
def isNoncharacter (c : Char) : Bool :=
  (0xFDD0 ≤ c.toNat && c.toNat ≤ 0xFDEF) || 0xFFFE ≤ c.toNat % 0x10000

/-- Format characters that have a shape of their own. -/
def visibleFormats : Text.Ranges := .ofText <|
  "FFF9-FFFB 13430-1343F"

/-- Code points that a display without a shape for them may leave out. -/
def isIgnorable (c : Char) : Bool :=
  (category c = .Cf || within furtherIgnorable c || within variationSelectors c) &&
    !(Text.isBlank c || within concatenationMarks c || within visibleFormats c)

/-- Characters that stand on their own, neither controls nor extensions of others. -/
def isGraphemeBase (c : Char) : Bool :=
  match category c with
  | .Cc | .Cf | .Cs | .Co | .Cn | .Zl | .Zp => false
  | _ => !isExtending c

/-! ## Case -/

/-- Lower-case characters that are no letters. -/
def isFurtherLower (c : Char) : Bool :=
  knows c && within Text.furtherLower c

/-- Upper-case characters that are no letters. -/
def isFurtherUpper (c : Char) : Bool :=
  within Text.furtherUpper c

/-- Cased symbols and the one cased mark. -/
def casedSymbols : Text.Ranges := .ofText <|
  "345 24B6-24E9 1F130-1F149 1F150-1F169 1F170-1F189"

/-- Alphabetic marks and symbols. -/
def isFurtherAlphabetic (c : Char) : Bool :=
  knows c && (within Text.furtherAlphabetic c || within casedSymbols c)

/-- Marks that extend the character before them besides the nonspacing and enclosing ones. -/
def isFurtherExtending (c : Char) : Bool :=
  within Text.furtherExtending c

def changesLowered (c : Char) : Bool :=
  lowerChars c ≠ [c]

def changesUppered (c : Char) : Bool :=
  upperChars c ≠ [c]

/-- Letters whose title case is the letter itself, though it has an upper case. -/
def titledAlready : Text.Ranges := .ofText <|
  "10D0-10FA 10FD-10FF"

/-- Upper-case letters made of two letters, of which the title case keeps only the first large. -/
def largePairs : Text.Ranges := .ofText <|
  "1C4 1C7 1CA 1F1"

def changesTitled (c : Char) : Bool :=
  within largePairs c || (changesUppered c && category c ≠ .Lt && !within titledAlready c)

/-- Upper-case letters that case folding keeps. -/
def foldedAlready : Text.Ranges := .ofText <|
  "13A0-13F5"

/-- Characters that case folding changes, though they have no lower case of their own. -/
def furtherFolded : Text.Ranges := .ofText <|
  String.join [
    "B5 DF 149 17F 345 3C2 3D0-3D1 3D5-3D6 3F0-3F1 3F5 587 13F8-13FD 1C80-1C88 1E9A-1E9B 1F80-1F87 ",
    "1F90-1F97 1FA0-1FA7 1FB2-1FB4 1FB7 1FC2-1FC4 1FC7 1FF2-1FF4 1FF7 AB70-ABBF FB00-FB06 ",
    "FB13-FB17"]

def changesFolded (c : Char) : Bool :=
  within furtherFolded c || (changesLowered c && !within foldedAlready c)

/-! ## Identifiers -/

/-- Characters that are left to patterns, so that no identifier holds them. -/
def isReserved (c : Char) : Bool :=
  within patternMarks c || within patternBlanks c

def isIdStart (c : Char) : Bool :=
  let k := category c
  (k.isLetter || k = .Nl || within furtherIdStarts c) && !isReserved c

def isIdContinue (c : Char) : Bool :=
  match category c with
  | .Mn | .Mc | .Nd | .Pc => !isReserved c
  | _ => isIdStart c || (within furtherIdContinues c && !isReserved c)

/-- Characters that an identifier may start with before and after compatibility decomposition. -/
def isStableIdStart (c : Char) : Bool :=
  isIdStart c && !within compatibilityStarts c

/-- Characters that may stand in an identifier before and after compatibility decomposition. -/
def isStableIdContinue (c : Char) : Bool :=
  isIdContinue c && !within compatibilityContinues c

/-- Mathematical symbols in identifiers, where a profile allows them. -/
def isMathContinue (c : Char) : Bool :=
  within mathStarts c || within furtherMathContinues c

/-! ## All of them -/

/-- Names of each property, separated by `=`, and its test. -/
def binaryProperties : List (String × (Char → Bool)) := [
  ("ASCII_Hex_Digit=AHex", within asciiHexDigits),
  ("Alphabetic=Alpha", isAlphabetic),
  ("Bidi_Control=Bidi_C", within bidiControls),
  ("Bidi_Mirrored=Bidi_M", within bidiMirrored),
  ("Case_Ignorable=CI", isCaseIgnorable),
  ("Cased", isCased),
  ("Changes_When_Casefolded=CWCF", changesFolded),
  ("Changes_When_Casemapped=CWCM", fun c => changesLowered c || changesUppered c),
  ("Changes_When_Lowercased=CWL", changesLowered),
  ("Changes_When_Titlecased=CWT", changesTitled),
  ("Changes_When_Uppercased=CWU", changesUppered),
  ("Dash", isDash),
  ("Default_Ignorable_Code_Point=DI", isIgnorable),
  ("Deprecated=Dep", within deprecatedCharacters),
  ("Diacritic=Dia", within diacritics),
  ("Emoji", within emoji),
  ("Emoji_Component=EComp", within emojiComponents),
  ("Emoji_Modifier=EMod", within emojiModifiers),
  ("Emoji_Modifier_Base=EBase", within emojiModifierBases),
  ("Emoji_Presentation=EPres", within emojiPresentation),
  ("Extended_Pictographic=ExtPict", within pictographs),
  ("Extender=Ext", within extenders),
  ("Grapheme_Base=Gr_Base", isGraphemeBase),
  ("Grapheme_Extend=Gr_Ext", isExtending),
  ("Grapheme_Link=Gr_Link", within graphemeLinks),
  ("Hex_Digit=Hex", isHexDigit),
  ("Hyphen", within hyphens),
  ("IDS_Unary_Operator=IDSU", within unaryDescriptions),
  ("IDS_Binary_Operator=IDSB", within binaryDescriptions),
  ("IDS_Trinary_Operator=IDST", within ternaryDescriptions),
  ("ID_Compat_Math_Start", within mathStarts),
  ("ID_Compat_Math_Continue", isMathContinue),
  ("ID_Start=IDS", isIdStart),
  ("ID_Continue=IDC", isIdContinue),
  ("Ideographic=Ideo", isIdeographic),
  ("Join_Control=Join_C", within joinControls),
  ("Logical_Order_Exception=LOE", within logicalOrderExceptions),
  ("Lowercase=Lower", isLower),
  ("Math", isMath),
  ("Modifier_Combining_Mark=MCM", within modifierMarks),
  ("Noncharacter_Code_Point=NChar", isNoncharacter),
  ("Other_Alphabetic=OAlpha", isFurtherAlphabetic),
  ("Other_Default_Ignorable_Code_Point=ODI", within furtherIgnorable),
  ("Other_Grapheme_Extend=OGr_Ext", isFurtherExtending),
  ("Other_ID_Start=OIDS", within furtherIdStarts),
  ("Other_ID_Continue=OIDC", within furtherIdContinues),
  ("Other_Lowercase=OLower", isFurtherLower),
  ("Other_Math=OMath", within furtherMath),
  ("Other_Uppercase=OUpper", isFurtherUpper),
  ("Pattern_Syntax=Pat_Syn", within patternMarks),
  ("Pattern_White_Space=Pat_WS", within patternBlanks),
  ("Prepended_Concatenation_Mark=PCM", within concatenationMarks),
  ("Quotation_Mark=QMark", within quotationMarks),
  ("Radical", within radicals),
  ("Regional_Indicator=RI", within regionalIndicators),
  ("Sentence_Terminal=STerm", within sentenceEnds),
  ("Soft_Dotted=SD", within softDotted),
  ("Terminal_Punctuation=Term", isTerminal),
  ("Unified_Ideograph=UIdeo", within unifiedIdeographs),
  ("Uppercase=Upper", isUpper),
  ("Variation_Selector=VS", within variationSelectors),
  ("White_Space=WSpace=space", Text.isBlank),
  ("XID_Start=XIDS", isStableIdStart),
  ("XID_Continue=XIDC", isStableIdContinue)]

end RowQuery.Repertoire
