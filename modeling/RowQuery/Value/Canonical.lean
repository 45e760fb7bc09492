import RowQuery.Number.Layout
import RowQuery.Number.Scan
import RowQuery.Text.Quoted
import RowQuery.Value.Basic

/-!
# Texts of values

`canonical` is a text that carries the type of a value: a float always shows a point, an exponent or a
word, a string stands between quotes. `plainText` is the text that a value adds to a longer one.
-/

namespace RowQuery.Value

open RowQuery Number

mutual

/-- Type-tagged text of a value, as characters. -/
def canonicalChars : Value → List Char
  | null => ['n', 'u', 'l', 'l']
  | bool true => ['t', 'r', 'u', 'e']
  | bool false => ['f', 'a', 'l', 's', 'e']
  | int n => (intText n).toList
  | float x => Layout.tagged.chars x
  | str s => (Text.quoted s).toList
  | array items => '[' :: canonicalItems items ++ [']']
  | object fields => '\x7b' :: canonicalFields fields ++ ['\x7d']

def canonicalItems : List Value → List Char
  | [] => []
  | [v] => canonicalChars v
  | v :: rest => canonicalChars v ++ ',' :: canonicalItems rest

def canonicalFields : List (String × Value) → List Char
  | [] => []
  | [(k, v)] => (Text.quoted k).toList ++ ':' :: canonicalChars v
  | (k, v) :: rest =>
    (Text.quoted k).toList ++ ':' :: canonicalChars v ++ ',' :: canonicalFields rest

end

def canonical (v : Value) : String :=
  String.ofList v.canonicalChars

/-- Text of a value inside a longer text; null adds nothing, a string itself. -/
def plainText : Value → String
  | str s => s
  | float x => Layout.plain.write x
  | int n => intText n
  | bool b => if b then "true" else "false"
  | null => ""
  | v => v.canonical

end RowQuery.Value
