import RowQuery.Text.Hex
import RowQuery.Text.Property

/-!
# Quoted text

`quoted s` writes a text between double quotes on one line: a backslash stands in front of a double
quote, a backslash, and the letters `n`, `r`, `t`, `0` for the four controls that have a short form;
characters that extend their predecessor or leave no mark are written as `\u{…}` with their code point
in hexadecimal; every other character stands for itself.
-/

namespace RowQuery.Text

/-- Written form of one character between double quotes. -/
def escape (c : Char) : List Char :=
  if c = '\x00' then ['\\', '0']
  else if c = '\t' then ['\\', 't']
  else if c = '\r' then ['\\', 'r']
  else if c = '\n' then ['\\', 'n']
  else if c = '\\' then ['\\', '\\']
  else if c = '\x22' then ['\\', '\x22']
  else if isExtending c || !isPrintable c then
    ['\\', 'u', '\x7b'] ++ hexDigits c.toNat ++ ['\x7d']
  else [c]

def quoted (s : String) : String :=
  String.ofList ('\x22' :: s.toList.flatMap escape ++ ['\x22'])

end RowQuery.Text
