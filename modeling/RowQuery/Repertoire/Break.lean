import RowQuery.Repertoire.Binary
import RowQuery.Repertoire.Script

/-!
# Classes of text boundaries

Three properties sort characters by their part in finding the boundaries between clusters, words and
sentences. Each is given as a list of its values with their names and tests; a character has at most
one value of each.
-/

namespace RowQuery.Repertoire

/-! ## Clusters -/

def isClusterExtending (c : Char) : Bool :=
  (isExtending c || within emojiModifiers c) && c ≠ '\u200d'

/-- Controls, separators and unassigned code points that a display may leave out. -/
def isClusterControl (c : Char) : Bool :=
  match category c with
  | .Zl | .Zp => true
  | .Cc => c ≠ '\r' && c ≠ '\n'
  | .Cf => !(c = '\u200d' || within concatenationMarks c || isExtending c)
  | .Cn => isIgnorable c
  | _ => false

/-- Letters that join the cluster behind them. -/
def precedingLetters : Text.Ranges := .ofText <|
  "D4E 111C2-111C3 113D1 1193F 11941 11A3A 11A84-11A89 11D46 11F02"

/-- Spacing marks that do not join the cluster before them. -/
def separateMarks : Text.Ranges := .ofText <|
  String.join [
    "102B-102C 1038 1062-1064 1067-106D 1083 1087-108C 108F 109A-109C 1A61 1A63-1A64 AA7B AA7D ",
    "11720-11721"]

/-- Vowel signs that join the cluster before them though they are letters. -/
def joiningVowels : Text.Ranges := .ofText <|
  "E33 EB3"

def isSpacingMark (c : Char) : Bool :=
  within joiningVowels c ||
    (category c = .Mc && !isClusterExtending c && !within separateMarks c)

/-- Leading consonants of syllables that are spelled out. -/
def leadingJamo : Text.Ranges := .ofText <|
  "1100-115F A960-A97C"

/-- Vowels of syllables that are spelled out. -/
def vowelJamo : Text.Ranges := .ofText <|
  "1160-11A7 D7B0-D7C6 16D63 16D67-16D6A"

/-- Trailing consonants of syllables that are spelled out. -/
def trailingJamo : Text.Ranges := .ofText <|
  "11A8-11FF D7CB-D7FB"

/-- Syllables with a code point of their own: in each group of 28 the first has no trailing
consonant. -/
def isSyllable (trailing : Bool) (c : Char) : Bool :=
  0xAC00 ≤ c.toNat && c.toNat ≤ 0xD7A3 && ((c.toNat - 0xAC00) % 28 ≠ 0) = trailing

def clusterClasses : List (String × (Char → Bool)) := [
  ("CR", (· = '\r')),
  ("LF", (· = '\n')),
  ("Control=CN", isClusterControl),
  ("Extend=EX", isClusterExtending),
  ("ZWJ", (· = '\u200d')),
  ("Regional_Indicator=RI", within regionalIndicators),
  ("Prepend=PP", fun c => within concatenationMarks c || within precedingLetters c),
  ("SpacingMark=SM", isSpacingMark),
  ("L", within leadingJamo),
  ("V", within vowelJamo),
  ("T", within trailingJamo),
  ("LV", isSyllable false),
  ("LVT", isSyllable true)]

/-! ## Words -/

def isWordExtending (c : Char) : Bool :=
  (isExtending c || category c = .Mc || within emojiModifiers c) && c ≠ '\u200d'

def isWordFormat (c : Char) : Bool :=
  category c = .Cf && !(c = '\u200b' || c = '\u200d' || within concatenationMarks c || isExtending c)

/-- Marks that words of the script Katakana may hold. -/
def furtherKatakana : Text.Ranges := .ofText <|
  "3031-3035 309B-309C 30A0 30FC FF70"

def isWordKatakana (c : Char) : Bool :=
  script c = "Kana" || within furtherKatakana c

def isHebrewLetter (c : Char) : Bool :=
  script c = "Hebr" && category c = .Lo

/-- Scripts that put no blanks between words, and Hiragana. -/
def unspacedScripts : List String :=
  ["Thai", "Laoo", "Mymr", "Khmr", "Tale", "Talu", "Lana", "Tavt", "Ahom", "Hira"]

/-- Signs that words may hold though they are not alphabetic. -/
def furtherWordLetters : Text.Ranges := .ofText <|
  "2C2-2C5 2D2-2D7 2DE-2DF 2E5-2EB 2ED 2EF-2FF 55A-55C 55E 58A 5F3 70F A708-A716 A720-A721 A789-A78A AB5B"

def isWordLetter (c : Char) : Bool :=
  within furtherWordLetters c ||
    (isAlphabetic c && !isIdeographic c && !isWordKatakana c && !isHebrewLetter c &&
      !isWordExtending c && !unspacedScripts.contains (script c))

/-- Signs that stand in numbers besides decimal digits. -/
def furtherNumeric : Text.Ranges := .ofText <|
  "600-605 66B 6DD 890-891 8E2 19DA 110BD 110CD"

def isWordNumeric (c : Char) : Bool :=
  category c = .Nd || within furtherNumeric c

/-- Marks inside words and numbers. -/
def midBoth : Text.Ranges := .ofText <|
  "2E 2018-2019 2024 FE52 FF07 FF0E"

/-- Marks inside words. -/
def midWord : Text.Ranges := .ofText <|
  "3A B7 387 55F 5F4 2027 FE13 FE55 FF1A"

/-- Marks inside numbers. -/
def midNumber : Text.Ranges := .ofText <|
  "2C 3B 37E 589 60C-60D 66C 7F8 2044 FE50 FE54 FF0C FF1B"

/-- Controls that break a line, and the two separators. -/
def lineBreaks : Text.Ranges := .ofText <|
  "B-C 85 2028-2029"

/-- Blanks that stay together. -/
def wordBlanks : Text.Ranges := .ofText <|
  "20 1680 2000-2006 2008-200A 205F 3000"

def wordClasses : List (String × (Char → Bool)) := [
  ("CR", (· = '\r')),
  ("LF", (· = '\n')),
  ("Newline=NL", within lineBreaks),
  ("Extend", isWordExtending),
  ("ZWJ", (· = '\u200d')),
  ("Regional_Indicator=RI", within regionalIndicators),
  ("Format=FO", isWordFormat),
  ("Katakana=KA", isWordKatakana),
  ("Hebrew_Letter=HL", isHebrewLetter),
  ("ALetter=LE", isWordLetter),
  ("Single_Quote=SQ", (· = '\x27')),
  ("Double_Quote=DQ", (· = '\x22')),
  ("MidNumLet=MB", within midBoth),
  ("MidLetter=ML", within midWord),
  ("MidNum=MN", within midNumber),
  ("Numeric=NU", isWordNumeric),
  ("ExtendNumLet=EX", fun c => category c = .Pc || c = '\u202f'),
  ("WSegSpace", within wordBlanks)]

/-! ## Sentences -/

def isSentenceExtending (c : Char) : Bool :=
  isExtending c || category c = .Mc || c = '\u200d'

/-- Line separators. -/
def sentenceBreaks : Text.Ranges := .ofText <|
  "85 2028-2029"

def isSentenceNumeric (c : Char) : Bool :=
  isWordNumeric c || c = '\u066c'

def isSentenceFormat (c : Char) : Bool :=
  category c = .Cf && !(isSentenceExtending c || isSentenceNumeric c)

def isSentenceBlank (c : Char) : Bool :=
  Text.isBlank c && !(c = '\r' || c = '\n' || within sentenceBreaks c)

def isSentenceLower (c : Char) : Bool :=
  isLower c && !isExtending c && !within titledAlready c

/-- Upper-case letters of a script that does not start sentences with them. -/
def plainCapitals : Text.Ranges := .ofText <|
  "1C90-1CBA 1CBD-1CBF"

def isSentenceUpper (c : Char) : Bool :=
  (isUpper c || category c = .Lt) && !within plainCapitals c

/-- Other letters of words. -/
def isSentenceLetter (c : Char) : Bool :=
  c = '\u05f3' ||
    (isAlphabetic c && !(isSentenceLower c || isSentenceUpper c || isSentenceExtending c))

/-- Full stops, which may also stand inside a sentence. -/
def fullStops : Text.Ranges := .ofText <|
  "2E 2024 FE52 FF0E"

/-- Marks behind which a sentence goes on. -/
def sentenceContinues : Text.Ranges := .ofText <|
  String.join [
    "2C-2D 3A-3B 37E 55D 60C-60D 7F8 1802 1808 2013-2014 3001 FE10-FE11 FE13-FE14 FE31-FE32 ",
    "FE50-FE51 FE54-FE55 FE58 FE63 FF0C-FF0D FF1A-FF1B FF64"]

/-- Ornaments and editorial signs that close a sentence as quotation marks do. -/
def furtherClosing : Text.Ranges := .ofText <|
  "275B-2760 2E00-2E01 2E06-2E08 2E0B 1F676-1F678"

/-- Quotation marks of full width, which close no sentence. -/
def wideQuotes : Text.Ranges := .ofText <|
  "FF02 FF07"

/-- Brackets and quotation marks. -/
def isSentenceClosing (c : Char) : Bool :=
  match category c with
  | .Ps | .Pe | .Pi | .Pf => true
  | _ => within furtherClosing c || (within quotationMarks c && !within wideQuotes c)

def sentenceClasses : List (String × (Char → Bool)) := [
  ("CR", (· = '\r')),
  ("LF", (· = '\n')),
  ("Sep=SE", within sentenceBreaks),
  ("Extend=EX", isSentenceExtending),
  ("Format=FO", isSentenceFormat),
  ("Sp", isSentenceBlank),
  ("Lower=LO", isSentenceLower),
  ("Upper=UP", isSentenceUpper),
  ("OLetter=LE", isSentenceLetter),
  ("Numeric=NU", isSentenceNumeric),
  ("ATerm=AT", within fullStops),
  ("SContinue=SC", within sentenceContinues),
  ("STerm=ST", fun c => within sentenceEnds c && !within fullStops c),
  ("Close=CL", isSentenceClosing)]

end RowQuery.Repertoire
