import RowQuery.Builtin.Basic
import RowQuery.Text.Case
import RowQuery.Text.Search
import RowQuery.Value.Canonical

/-!
# Functions on strings
-/

namespace RowQuery.Builtin

open Number

/-- Number of characters, elements or fields. -/
def length : Body :=
  .one fun name v =>
    match v with
    | .str s => .ok (.int (Int64.ofInt s.length))
    | .array items => .ok (.int (Int64.ofInt items.length))
    | .object fields => .ok (.int (Int64.ofInt fields.length))
    | v => .error (.typeFault (.argument name "a string, array or object" v.typeName))

def lower : Body := onText fun s => .str (Text.lowercase s)

def upper : Body := onText fun s => .str (Text.uppercase s)

def trim : Body := onText fun s => .str (Text.trimString s)

/-- Whole part of a number, from 0 to 2^64 - 1. -/
def count (x : Float) : Nat :=
  (clampedPart 0 (2 ^ 64 - 1) x).toNat

/-- Characters from a position on, all of them or a number of them. -/
def substr : Body :=
  .twoOrThree fun name v start len => do
    let s ← text name v
    let rest := s.toList.drop (count (← number name start))
    match len with
    | none => return .str (String.ofList rest)
    | some len => return .str (String.ofList (rest.take (count (← number name len))))

/-- Whether a string has a part, or an array an element. -/
def contains : Body :=
  .two fun name hay needle =>
    match hay, needle with
    | .str hay, .str needle => .ok (.bool (Text.occursIn needle.toList hay.toList))
    | .array items, needle => .ok (.bool (items.any (·.looseEq needle)))
    | hay, _ => .error (.typeFault (.argument name "a string or array" hay.typeName))

/-- Whether the first string is a part of the second. -/
def substringOf : Body :=
  .two fun name needle hay => do
    let needle ← text name needle
    let hay ← text name hay
    return .bool (Text.occursIn needle.toList hay.toList)

def startsWith : Body :=
  .two fun name v start => do
    let s ← text name v
    let t ← text name start
    return .bool (t.toList.isPrefixOf s.toList)

def endsWith : Body :=
  .two fun name v tail => do
    let s ← text name v
    let t ← text name tail
    return .bool (t.toList.isSuffixOf s.toList)

/-- All arguments as one text. -/
def concat : Body :=
  .anyNumber fun _ args => .ok (.str (args.foldl (fun s v => s ++ v.plainText) ""))

end RowQuery.Builtin
