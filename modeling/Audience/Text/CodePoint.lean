/-!
# Code points in hexadecimal

* **`Text.hexDigit?`**: the value of a hexadecimal digit.
* **`Text.codePoint?`**: the character whose code point some hexadecimal digits give.
-/

namespace Audience.Text

/-- The value of a hexadecimal digit. -/
def hexDigit? (c : Char) : Option Nat :=
  if c.isDigit then some (c.toNat - '0'.toNat)
  else if 'a' ≤ c && c ≤ 'f' then some (c.toNat - 'a'.toNat + 10)
  else if 'A' ≤ c && c ≤ 'F' then some (c.toNat - 'A'.toNat + 10)
  else none

/-- The number that hexadecimal digits give. -/
def hexValue? (digits : List Char) : Option Nat :=
  digits.foldlM (fun value c => do return 16 * value + (← hexDigit? c)) 0

/-- The character of a code point; surrogates have none. -/
def ofCodePoint? (code : Nat) : Option Char :=
  if h : code.isValidChar then some (Char.ofNatAux code h) else none

/-- The character whose code point hexadecimal digits give. -/
def codePoint? (digits : List Char) : Option Char := do ofCodePoint? (← hexValue? digits)

/-- The character given by the first digits of a text, exactly so many, and the rest of the text. -/
def takeCodePoint? (digits : Nat) (text : List Char) : Option (Char × List Char) :=
  if text.length < digits then none
  else (codePoint? (text.take digits)).map fun c => (c, text.drop digits)

end Audience.Text
