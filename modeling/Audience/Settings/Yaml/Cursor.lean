/-!
# Places in YAML documents

* **`Yaml.Cursor`**: a place in a text, with its line and column; in YAML it matters where on a line
  something stands.
* **`Yaml.Cursor.skipBlanks?`**, **`Yaml.Cursor.skipLayout?`**: pass over blanks and a comment on one
  line, and over all that may stand between tokens.
-/

namespace Audience.Yaml

/-! ### Characters -/

/-- Whether a character separates words on a line. -/
def isBlank (c : Char) : Bool := c = ' ' || c = '\t'

/-- Whether a character separates words. -/
def isSpace (c : Char) : Bool := isBlank c || c = '\n'

/-- Whether a character has a meaning of its own inside brackets. -/
def isFlowMark (c : Char) : Bool :=
  c = ',' || c = '[' || c = ']' || c = '\x7b' || c = '\x7d'

/-- Whether a word ends in front of a text. -/
def endsWord : List Char → Bool
  | [] => true
  | c :: _ => isSpace c

/-- Whether a mark that has a meaning inside brackets stands in front of a text. -/
def startsFlowMark : List Char → Bool
  | [] => false
  | c :: _ => isFlowMark c

/-- Whether a line ends in front of a text. -/
def endsLine : List Char → Bool
  | [] => true
  | c :: _ => c = '\n'

/-- Whether a mark of three characters stands in front of a text. -/
def startsMark (c : Char) (text : List Char) : Bool :=
  text.take 3 = [c, c, c] && endsWord (text.drop 3)

/-- Whether a mark that separates documents stands in front of a text. -/
def isSeparator (text : List Char) : Bool := startsMark '-' text || startsMark '.' text

/-! ### Places -/

/-- A place in a text. -/
structure Cursor where
  /-- The text behind the place. -/
  text : List Char
  /-- The number of characters before the place. -/
  index : Nat
  /-- The number of lines before the line of the place. -/
  line : Nat
  /-- The number of characters before the place on its line. -/
  column : Nat
  /-- Whether only blanks stand before the place on its line. -/
  isLeading : Bool

namespace Cursor

/-- The start of a text. -/
def start (text : List Char) : Cursor := ⟨text, 0, 0, 0, true⟩

/-- The place so many characters on, which stand on the same line and are not all blank. -/
def skip (cursor : Cursor) (count : Nat) : Cursor :=
  { cursor with
    text := cursor.text.drop count, index := cursor.index + count,
    column := cursor.column + count, isLeading := false }

/-- The place so many blanks on. -/
def skipBlank (cursor : Cursor) (count : Nat) : Cursor :=
  { cursor.skip count with isLeading := cursor.isLeading }

/-- The place behind the end of the line that stands in front. -/
def skipLineEnd (cursor : Cursor) : Cursor :=
  ⟨cursor.text.drop 1, cursor.index + 1, cursor.line + 1, 0, true⟩

/-- The end of the line. -/
def skipLine (cursor : Cursor) : Cursor := cursor.skip (cursor.text.takeWhile (· ≠ '\n')).length

/-- Whether a mark that separates documents stands at the place. -/
def isAtSeparator (cursor : Cursor) : Bool := cursor.column = 0 && isSeparator cursor.text

/-- The place behind blanks on a line and a comment behind them, and the blanks; a comment without a
blank in front is none. -/
def skipBlanks? (cursor : Cursor) : Option (Cursor × List Char) :=
  let blanks := cursor.text.takeWhile isBlank
  let behind := cursor.skipBlank blanks.length
  if behind.text.head? = some '#' then
    if blanks.isEmpty then none else some (behind.skipLine, blanks)
  else some (behind, blanks)

/-- Whether a tab at the place would be part of the indentation of a block. -/
def isIndentation (cursor : Cursor) (indent : Int) : Bool :=
  cursor.isLeading && (cursor.column : Int) < indent

/-- The place of the next token. In a block that stands in the column `indent`, a tab cannot indent
a line unless the line is empty. -/
def skipLayout? (isInBlock : Bool) (indent : Int) : Nat → Cursor → Option Cursor
  | 0, cursor => some cursor
  | fuel + 1, cursor =>
      match cursor.text with
      | ' ' :: _ => skipLayout? isInBlock indent fuel (cursor.skipBlank 1)
      | '\t' :: _ =>
          if isInBlock && cursor.isIndentation indent then do
            let (behind, _) ← cursor.skipBlanks?
            if endsLine behind.text then skipLayout? isInBlock indent fuel behind else none
          else skipLayout? isInBlock indent fuel (cursor.skipBlank 1)
      | '\n' :: _ => skipLayout? isInBlock indent fuel cursor.skipLineEnd
      | '#' :: _ => skipLayout? isInBlock indent fuel cursor.skipLine
      | _ => some cursor

end Cursor

end Audience.Yaml
