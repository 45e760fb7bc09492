import RowQuery.Repertoire.Age
import RowQuery.Repertoire.Break

/-!
# Edges of sets of characters

Every set of characters that has a name is a union of stretches of code points, and each stretch starts
and ends at one of a few thousand code points. `edges` lists these, so that the stretches of a set are
found without a look at every character.
-/

namespace RowQuery.Repertoire

/-- Code points at which the runs of a table start, and the one behind the last of them. -/
def runEdges {α : Type} (start : Nat) : List (α × Nat) → List Nat
  | [] => [start]
  | (_, length) :: runs => start :: runEdges (start + length) runs

/-- Code points at which a table of ranges starts or stops to hold. -/
def rangeEdges (spans : Text.Ranges) : List Nat :=
  spans.flatMap fun span => [span.1, span.2 + 1]

/-- Tables of ranges that properties are read off. -/
def rangeTables : List Text.Ranges := [
  later, Text.furtherLower, Text.furtherUpper, Text.furtherAlphabetic, Text.furtherCaseIgnorable,
  Text.furtherExtending,
  asciiHexDigits, bidiControls, bidiMirrored, deprecatedCharacters, diacritics, emoji,
  emojiComponents, emojiModifiers, emojiModifierBases, emojiPresentation, pictographs, extenders,
  graphemeLinks, hyphens, unaryDescriptions, binaryDescriptions, ternaryDescriptions, mathStarts,
  furtherMathContinues, unifiedIdeographs, furtherIdeographs, joinControls, logicalOrderExceptions,
  modifierMarks, furtherMath, furtherIgnorable, furtherIdStarts, furtherIdContinues,
  compatibilityStarts, compatibilityContinues, patternMarks, patternBlanks, concatenationMarks,
  quotationMarks, radicals, regionalIndicators, sentenceEnds, softDotted, furtherTerminals,
  variationSelectors,
  furtherDashes, wideHexDigits, visibleFormats, casedSymbols, titledAlready, largePairs,
  foldedAlready, furtherFolded,
  precedingLetters, separateMarks, joiningVowels, leadingJamo, vowelJamo, trailingJamo,
  furtherKatakana, furtherWordLetters, furtherNumeric, midBoth, midWord, midNumber, lineBreaks,
  wordBlanks, sentenceBreaks, plainCapitals, fullStops, sentenceContinues, furtherClosing,
  wideQuotes]

/-- Code points that a shift covers or leads to, and the ones behind them. -/
def shiftEdges (s : Text.Shift) : List Nat :=
  (List.range (s.last + 1 - s.first)).flatMap fun k =>
    let n := s.first + k
    let target := (n + s.delta).toNat
    if s.covers n then [n, n + 1, target, target + 1] else []

/-- Code points whose case is a matter of tables, and the ones behind them. -/
def caseEdges : List Nat :=
  (Text.lowerTable ++ Text.upperTable ++ Text.foldTable).flatMap shiftEdges ++
    (Text.lowerLong ++ Text.upperLong).flatMap fun entry => [entry.1, entry.1 + 1]

/-- Code points at which syllables of one block change between the two kinds. -/
def syllableEdges : List Nat :=
  (List.range 400).flatMap fun k => [0xAC00 + 28 * k, 0xAC01 + 28 * k]

/-- The last two code points of each plane, which are no characters, and the next plane's first. -/
def planeEdges : List Nat :=
  (List.range 17).flatMap fun plane => [0x10000 * plane + 0xFFFE, 0x10000 * (plane + 1)]

/-- Code points at which a set with a name may start or stop. -/
def edges : List Nat :=
  List.range 256 ++ runEdges 0 Text.categoryTable ++ runEdges 0 scriptTable ++
    runEdges 0 ageTable ++ (rangeTables ++ sharedTable.map Prod.snd).flatMap rangeEdges ++
    caseEdges ++ syllableEdges ++ planeEdges ++ [0xFDD0, 0xFDF0]

end RowQuery.Repertoire
