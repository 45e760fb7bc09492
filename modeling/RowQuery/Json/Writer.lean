import RowQuery.Json.Basic
import RowQuery.Number.Layout
import RowQuery.Text.Hex

/-!
# Writing JSON

Compact text has no blanks at all. Indented text puts every element and member on a line of its own, two
spaces deeper than the brackets around it; empty brackets stay together.
-/

namespace RowQuery.Json

/-- Written form of a character of a string: quotes, backslashes and controls are escaped. -/
def escape (c : Char) : List Char :=
  match c with
  | '\x22' => ['\\', '\x22']
  | '\\' => ['\\', '\\']
  | '\x08' => ['\\', 'b']
  | '\x09' => ['\\', 't']
  | '\x0a' => ['\\', 'n']
  | '\x0c' => ['\\', 'f']
  | '\x0d' => ['\\', 'r']
  | c =>
    if c.toNat < 0x20 then
      let digits := Text.hexDigits c.toNat
      ['\\', 'u'] ++ List.replicate (4 - digits.length) '0' ++ digits
    else [c]

def quoted (s : String) : List Char :=
  '\x22' :: s.toList.flatMap escape ++ ['\x22']

def intChars (n : Int) : List Char :=
  (if n < 0 then ['-'] else []) ++ Nat.toDigits 10 n.natAbs

/-- End of a line and the indentation of the next; nothing in compact text. -/
def lineBreak : (indent : Option Nat) → List Char
  | none => []
  | some n => '\n' :: List.replicate (2 * n) ' '

/-- What stands between a name and its value. -/
def colon (indent : Option Nat) : List Char :=
  if indent.isSome then [':', ' '] else [':']

mutual

/-- Text of a value whose first line is indented by `indent` levels; compact without an indentation. -/
def chars (indent : Option Nat) : Json → List Char
  | null => ['n', 'u', 'l', 'l']
  | bool true => ['t', 'r', 'u', 'e']
  | bool false => ['f', 'a', 'l', 's', 'e']
  | int n => intChars n
  | float x => Number.Layout.json.chars x
  | str s => quoted s
  | array [] => ['[', ']']
  | array items => '[' :: itemChars (indent.map (· + 1)) items ++ lineBreak indent ++ [']']
  | object [] => ['\x7b', '\x7d']
  | object members =>
    '\x7b' :: memberChars (indent.map (· + 1)) members ++ lineBreak indent ++ ['\x7d']

def itemChars (indent : Option Nat) : List Json → List Char
  | [] => []
  | [j] => lineBreak indent ++ chars indent j
  | j :: rest => lineBreak indent ++ chars indent j ++ ',' :: itemChars indent rest

def memberChars (indent : Option Nat) : List (String × Json) → List Char
  | [] => []
  | [(name, j)] => lineBreak indent ++ quoted name ++ colon indent ++ chars indent j
  | (name, j) :: rest =>
    lineBreak indent ++ quoted name ++ colon indent ++ chars indent j ++
      ',' :: memberChars indent rest

end

def compact (j : Json) : String :=
  String.ofList (j.chars none)

def indented (j : Json) : String :=
  String.ofList (j.chars (some 0))

end RowQuery.Json
