import Audience.Text.CharSet

/-!
# Blank characters

The characters with the property `White_Space`.

* **`Text.isBlank`** tells them; **`Text.dropBlanks`** removes those at the front of a text.
* **`Text.lowerAscii`** serves to compare words without regard to case.
-/

namespace Audience.Text

/-- The blank characters. -/
def blanks : CharSet :=
  [(0x9, 0xd), (0x20, 0x20), (0x85, 0x85), (0xa0, 0xa0), (0x1680, 0x1680), (0x2000, 0x200a),
    (0x2028, 0x2029), (0x202f, 0x202f), (0x205f, 0x205f), (0x3000, 0x3000)]

/-- Whether a character is blank. -/
def isBlank (c : Char) : Bool := blanks.has c

/-- The text without the blanks at its front. -/
def dropBlanks (text : List Char) : List Char := text.dropWhile isBlank

/-- The text with ASCII capitals made small. -/
def lowerAscii (text : String) : String := text.map Char.toLower

end Audience.Text
