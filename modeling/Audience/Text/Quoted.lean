import Audience.Text.Printable

/-!
# Quoted text

A text between double quotes, in which every character can be told apart: a quote and a backslash are
written after a backslash, tab, line feed, carriage return and NUL by a letter, and other characters
that do not show by their code point in hexadecimal.
-/

namespace Audience.Text

/-- A character as it stands between quotes. -/
def quotedChar (c : Char) : List Char :=
  if c = '\x00' then ['\\', '0']
  else if c = '\t' then ['\\', 't']
  else if c = '\r' then ['\\', 'r']
  else if c = '\n' then ['\\', 'n']
  else if c = '"' then ['\\', '"']
  else if c = '\\' then ['\\', '\\']
  else if isShown c then [c]
  else '\\' :: 'u' :: '\x7b' :: Nat.toDigits 16 c.toNat ++ ['\x7d']

/-- A text between quotes. -/
def quoted (text : String) : List Char := '"' :: text.toList.flatMap quotedChar ++ ['"']

end Audience.Text
