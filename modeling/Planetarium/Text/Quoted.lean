import Planetarium.Text.Shown

/-!
# Quoted text

Messages quote names and tokens so that every character of them can be told from the page: the text stands
between double quotes, and what does not show by itself is escaped.
-/

namespace Planetarium.Text

/-- The escape for a character by its code point: `\u`, and the hexadecimal digits in braces. -/
def escapeCodePoint (c : Char) : List Char :=
  ['\\', 'u', '\x7b'] ++ Nat.toDigits 16 c.toNat ++ ['\x7d']

/-- How one character stands in a quoted text. -/
def escape (c : Char) : List Char :=
  if c = '\x00' then ['\\', '0']
  else if c = '\t' then ['\\', 't']
  else if c = '\r' then ['\\', 'r']
  else if c = '\n' then ['\\', 'n']
  else if c = '"' || c = '\\' then ['\\', c]
  else if isShown c then [c]
  else escapeCodePoint c

/-- The text in double quotes, with every character as `escape` writes it. -/
def quote (s : String) : String := String.ofList ('"' :: s.toList.flatMap escape ++ ['"'])

end Planetarium.Text
