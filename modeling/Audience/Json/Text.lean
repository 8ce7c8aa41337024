import Audience.Json.Basic
import Audience.Numeric.Decimal

/-!
# JSON values as text

* **`Json.text`**: the text of a value without blanks, members in the order they are listed.
-/

namespace Audience.Json

/-- A hexadecimal number of four digits. -/
def fourDigits (n : Nat) : List Char :=
  let digits := Nat.toDigits 16 n
  List.replicate (4 - digits.length) '0' ++ digits

/-- A character as it stands in a string. -/
def stringChar (c : Char) : List Char :=
  if c = '"' then ['\\', '"']
  else if c = '\\' then ['\\', '\\']
  else if c = '\n' then ['\\', 'n']
  else if c = '\r' then ['\\', 'r']
  else if c = '\t' then ['\\', 't']
  else if c = '\x08' then ['\\', 'b']
  else if c = '\x0c' then ['\\', 'f']
  else if c.toNat < 0x20 then '\\' :: 'u' :: fourDigits c.toNat
  else [c]

/-- A string between quotes. -/
def stringText (text : String) : String :=
  String.ofList ('"' :: (text.toList.map stringChar).flatten ++ ['"'])

/-- A decimal: positional while at most sixteen digits stand before the point and at most four zeros
behind it, and otherwise with an exponent. A point or an exponent shows that it is none of the
integers. -/
def decimalText (x : Decimal) : List Char :=
  if x.point ≤ -5 ∨ 16 < x.point then x.scientific
  else if x.exponent < 0 then x.positional
  else x.positional ++ ['.', '0']

/-- A number. -/
def Number.text : Number → String
  | .integer value _ => toString value
  | .real negative size =>
      String.ofList ((if negative then ['-'] else []) ++ decimalText size.shortest)

mutual

/-- The text of a value. -/
def text : Json → String
  | .null => "null"
  | .bool true => "true"
  | .bool false => "false"
  | .number value => value.text
  | .string value => stringText value
  | .array items => "[" ++ ",".intercalate (itemTexts items) ++ "]"
  | .object members => "\x7b" ++ ",".intercalate (memberTexts members) ++ "\x7d"

/-- The texts of a row of values. -/
def itemTexts : List Json → List String
  | [] => []
  | item :: rest => text item :: itemTexts rest

/-- The texts of members. -/
def memberTexts : List (String × Json) → List String
  | [] => []
  | (key, value) :: rest => (stringText key ++ ":" ++ text value) :: memberTexts rest

end

end Audience.Json
