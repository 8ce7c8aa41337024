import Audience.Settings.Yaml.Scalar
import Audience.Settings.Yaml.Tag

/-!
# Tokens of YAML documents

* **`Yaml.Token`**: what a document consists of. The starts and ends of blocks, which are written by
  indentation only, are tokens too.
* **`Yaml.Lexer`** and **`Yaml.Lexer.next?`**: reads a token. Whether a scalar is a key is known when
  the colon behind it is read: a place in the tokens where a key may start is remembered until then.
* **`Yaml.tokens?`**: the tokens of a text.
-/

namespace Audience.Yaml

/-- A part of a document. -/
inductive Token
  | directive (value : Directive)
  | documentStart
  | documentEnd
  | listStart
  | tableStart
  | blockEnd
  | flowListStart
  | flowListEnd
  | flowTableStart
  | flowTableEnd
  | item
  | comma
  | key
  | value
  | alias (name : String)
  | anchor (name : String)
  | tag (name : TagName)
  | scalar (isPlain : Bool) (text : String)
  deriving DecidableEq

/-- A place where a key may start. -/
structure KeyPlace where
  /-- The number of tokens before it. -/
  number : Nat
  index : Nat
  line : Nat
  column : Nat
  /-- Whether nothing but a key may start here. -/
  isRequired : Bool

/-- A column from which on everything belongs to a block or to a value. -/
structure Indent where
  column : Int
  /-- Whether it is that of a block, the end of which is a token. -/
  isBlock : Bool

/-- A document of which some tokens are read. -/
structure Lexer where
  cursor : Cursor
  tokens : Array Token
  /-- Whether a key may start here. -/
  isKeyAllowed : Bool
  /-- The place where the last key may start, outside of brackets and for every pair of them; the
  innermost comes first. -/
  keys : List (Option KeyPlace)
  /-- The blocks and values that are open; the innermost comes first. -/
  indents : List Indent
  /-- Where a colon needs no blank behind it. -/
  colonIndex : Option Nat
  /-- Whether a table in brackets, or a key with a mark, has started. -/
  isInTable : Bool
  /-- For every open list in brackets, the innermost first, the number of open brackets where a pair
  without braces has started in it. -/
  pairs : List (Option Nat)

namespace Lexer

/-! ### State -/

/-- The lexer at the start of a text. -/
def start (text : List Char) : Lexer :=
  ⟨.start text, #[], true, [none], [], none, false, []⟩

/-- The number of pairs of brackets that may stand around a token. -/
def nestingLimit : Nat := 255

/-- The number of open brackets. -/
def flowLevel (lexer : Lexer) : Nat := lexer.keys.length - 1

/-- Whether brackets are open. -/
def inFlow (lexer : Lexer) : Bool := lexer.flowLevel ≠ 0

/-- The column of the innermost block or value. -/
def indent (lexer : Lexer) : Int := ((lexer.indents.head?).map Indent.column).getD (-1)

/-- Adds a token. -/
def push (lexer : Lexer) (token : Token) : Lexer := { lexer with tokens := lexer.tokens.push token }

/-- Adds a token before those from a number on. -/
def insert (lexer : Lexer) (number : Nat) (token : Token) : Lexer :=
  { lexer with tokens := lexer.tokens.insertIdxIfInBounds number token }

/-- Allows that a key starts. -/
def allowKey (lexer : Lexer) (isAllowed : Bool) : Lexer := { lexer with isKeyAllowed := isAllowed }

/-- Goes to a place. -/
def moveTo (lexer : Lexer) (cursor : Cursor) : Lexer := { lexer with cursor }

/-! ### Places of keys -/

/-- Remembers that a key may start here. -/
def saveKey (lexer : Lexer) : Lexer :=
  if lexer.isKeyAllowed then
    let cursor := lexer.cursor
    let isRequired := !lexer.inFlow && lexer.indent = cursor.column &&
      ((lexer.indents.head?).map Indent.isBlock).getD false
    let key := ⟨lexer.tokens.size, cursor.index, cursor.line, cursor.column, isRequired⟩
    { lexer with keys := some key :: lexer.keys.drop 1 }
  else lexer

/-- Forgets the place where a key may start; it must not be required there. -/
def dropKey? (lexer : Lexer) : Option Lexer :=
  match lexer.keys with
  | some key :: keys => if key.isRequired then none else some { lexer with keys := none :: keys }
  | _ => some lexer

/-- The number of characters that a key outside of brackets may have. -/
def keyLimit : Nat := 1024

/-- Forgets the place where a key may start if the key would be too long or span lines. -/
def dropStaleKey? (lexer : Lexer) : Option Lexer :=
  match lexer.keys with
  | [some key] =>
      if key.line < lexer.cursor.line || key.index + keyLimit < lexer.cursor.index then
        lexer.dropKey?
      else some lexer
  | _ => some lexer

/-! ### Indentation -/

/-- Opens a block in a column, unless it is open; its first token stands before those from `number`
on. -/
def openBlock (lexer : Lexer) (column : Nat) (number : Nat) (token : Token) : Lexer :=
  if lexer.inFlow then lexer
  else
    let indents := match lexer.indents with
      | top :: below => if top.column ≤ column && !top.isBlock then below else lexer.indents
      | [] => []
    let lexer := { lexer with indents }
    if lexer.indent < (column : Int) then
      { lexer.insert number token with indents := ⟨column, true⟩ :: indents }
    else lexer

/-- Opens a value in the column behind that of the innermost block. -/
def openValue (lexer : Lexer) : Lexer :=
  match lexer.indents with
  | top :: _ =>
      if !lexer.inFlow && top.isBlock then
        { lexer with indents := ⟨top.column + 1, false⟩ :: lexer.indents }
      else lexer
  | [] => lexer

/-- Closes the values around which no block has opened. -/
def closeValues (lexer : Lexer) : Lexer :=
  { lexer with indents := lexer.indents.dropWhile fun indent => !indent.isBlock }

/-- Closes the blocks and values right of a column. -/
def closeBlocks (lexer : Lexer) (column : Int) : Lexer :=
  if lexer.inFlow then lexer
  else
    let closed := lexer.indents.takeWhile fun indent => column < indent.column
    let ends := (closed.filter Indent.isBlock).map fun _ => Token.blockEnd
    { lexer with
      tokens := lexer.tokens ++ ends.toArray, indents := lexer.indents.drop closed.length }

/-! ### Marks -/

/-- Reads a mark that separates documents. -/
def separator? (lexer : Lexer) (token : Token) : Option Lexer := do
  let lexer ← (lexer.closeBlocks (-1)).dropKey?
  return (lexer.allowKey false).moveTo (lexer.cursor.skip 3) |>.push token

/-- Reads the mark of the end of a document, behind which its line must end. -/
def documentEnd? (lexer : Lexer) : Option Lexer := do
  let lexer ← lexer.separator? .documentEnd
  let (behind, _) ← lexer.cursor.skipBlanks?
  if endsLine behind.text then some (lexer.moveTo behind) else none

/-- Reads a directive. -/
def directive? (lexer : Lexer) : Option Lexer := do
  let lexer ← (lexer.closeBlocks (-1)).dropKey?
  let (directive, behind) ← Directive.read? lexer.cursor
  return (lexer.allowKey false).moveTo behind |>.push (.directive directive)

/-- Ends a pair without braces that has started in so many open brackets. -/
def endPair (lexer : Lexer) (level : Nat) : Lexer :=
  match lexer.pairs with
  | some start :: pairs =>
      if start = level then
        { lexer.push .flowTableEnd with isInTable := false, pairs := none :: pairs }
      else lexer
  | _ => lexer

/-- Reads the mark of an item of a block. -/
def item? (lexer : Lexer) : Option Lexer := do
  if lexer.inFlow || !lexer.isKeyAllowed then none
  else
    let cursor := lexer.cursor
    let lexer := lexer.openBlock cursor.column lexer.tokens.size .listStart
    let (behind, blanks) ← (cursor.skip 1).skipBlanks?
    if blanks.contains '\t' && behind.text.head? = some '-' && endsWord (behind.text.drop 1) then none
    else
      let lexer := lexer.moveTo behind
      let isOpen := behind.text.head? = some '\n' || startsFlowMark behind.text
      let lexer := if isOpen then lexer.openValue else lexer
      let lexer ← lexer.dropKey?
      return (lexer.allowKey true).push .item

/-- The place behind blanks, comments and ends of lines without tabs. -/
def skipSpaces : Nat → Cursor → Cursor
  | 0, cursor => cursor
  | fuel + 1, cursor =>
      match cursor.text with
      | ' ' :: _ => skipSpaces fuel (cursor.skipBlank 1)
      | '\n' :: _ => skipSpaces fuel cursor.skipLineEnd
      | '#' :: _ => skipSpaces fuel cursor.skipLine
      | _ => cursor

/-- Reads the mark of a key; a blank or the end of a line follows it. -/
def key? (lexer : Lexer) : Option Lexer := do
  let cursor := lexer.cursor
  if !lexer.inFlow && !lexer.isKeyAllowed then none
  else
    let lexer :=
      if lexer.inFlow then { lexer with isInTable := true }
      else lexer.openBlock cursor.column lexer.tokens.size .tableStart
    let lexer ← lexer.dropKey?
    let first := cursor.skip 1
    let behind := skipSpaces first.text.length first
    if behind.index = first.index || behind.text.head? = some '\t' then none
    else some ((lexer.allowKey (!lexer.inFlow)).moveTo behind |>.push .key)

/-- The place behind a colon. A tab alone may not stand between it and a word. -/
def behindColon? (cursor : Cursor) : Option Cursor :=
  let first := cursor.skip 1
  if first.text.head? = some '\t' then do
    let (behind, blanks) ← first.skipBlanks?
    if blanks.contains ' ' then some behind
    else if ((behind.text.head?).map isHandleChar).getD false then none
    else some behind
  else some first

/-- Reads the colon behind a key. -/
def value? (lexer : Lexer) : Option Lexer := do
  let cursor := lexer.cursor
  let isPair := !lexer.pairs.isEmpty && !lexer.isInTable
  let lexer :=
    if isPair then { lexer with pairs := some lexer.flowLevel :: lexer.pairs.drop 1 } else lexer
  let lexer := lexer.moveTo (← behindColon? cursor)
  match lexer.keys with
  | some key :: keys =>
      if isPair && key.line < cursor.line then none
      else
        let lexer := lexer.insert key.number .key
        let lexer := if isPair then lexer.insert key.number .flowTableStart else lexer
        let lexer := (lexer.openBlock key.column key.number .tableStart).openValue
        return { lexer with keys := none :: keys, isKeyAllowed := false }.push .value
  | _ =>
      let lexer := if isPair then lexer.push .flowTableStart else lexer
      if lexer.inFlow then return (lexer.allowKey false).push .value
      else if !lexer.isKeyAllowed then none
      else
        let lexer := lexer.openBlock cursor.column lexer.tokens.size .tableStart
        return (lexer.openValue.allowKey true).push .value

/-- Reads an opening bracket. -/
def openBracket? (lexer : Lexer) (token : Token) : Option Lexer := do
  if nestingLimit ≤ lexer.flowLevel then none
  else
    let lexer := lexer.saveKey.openValue
    let (behind, _) ← (lexer.cursor.skip 1).skipBlanks?
    let lexer := { lexer with keys := none :: lexer.keys, isKeyAllowed := true }
    let lexer :=
      if token = .flowTableStart then { lexer with isInTable := true }
      else { lexer with pairs := none :: lexer.pairs }
    return (lexer.moveTo behind).push token

/-- Reads a closing bracket. -/
def closeBracket? (lexer : Lexer) (token : Token) : Option Lexer := do
  let lexer ← lexer.dropKey?
  let lexer :=
    if token = .flowListEnd then
      { lexer.endPair lexer.flowLevel with pairs := lexer.pairs.drop 1 }
    else lexer
  let lexer := if lexer.inFlow then { lexer with keys := lexer.keys.drop 1 } else lexer
  let (behind, _) ← (lexer.cursor.skip 1).skipBlanks?
  let colonIndex := if lexer.inFlow then some behind.index else lexer.colonIndex
  return { lexer with colonIndex, isKeyAllowed := false }.moveTo behind |>.push token

/-- Reads a comma. -/
def comma? (lexer : Lexer) : Option Lexer := do
  let lexer ← lexer.dropKey?
  let lexer := (lexer.allowKey true).endPair lexer.flowLevel
  let (behind, _) ← (lexer.cursor.skip 1).skipBlanks?
  return (lexer.moveTo behind).push .comma

/-! ### Words -/

/-- Reads an anchor or an alias. -/
def anchor? (lexer : Lexer) (token : String → Token) : Option Lexer := do
  let lexer := lexer.saveKey.allowKey false
  let (name, behind) ← anchorName? lexer.cursor
  return (lexer.moveTo behind).push (token name)

/-- Reads a tag. -/
def tag? (lexer : Lexer) : Option Lexer := do
  let lexer := lexer.saveKey.allowKey false
  let (name, behind) ← TagName.read? lexer.inFlow lexer.cursor
  return (lexer.moveTo behind).push (.tag name)

/-- The place of the next token, and whether a key may start there. -/
def skipLayout? (lexer : Lexer) : Option Lexer := do
  let behind ← lexer.cursor.skipLayout? (!lexer.indents.isEmpty) lexer.indent
    (lexer.cursor.text.length + 1)
  let isNewLine := !lexer.inFlow && lexer.cursor.line < behind.line
  return { lexer with cursor := behind, isKeyAllowed := lexer.isKeyAllowed || isNewLine }

/-- Reads a scalar in quotes, behind which a colon needs no blank. -/
def quoted? (lexer : Lexer) : Option Lexer := do
  let lexer := lexer.saveKey.allowKey false
  let (text, behind) ← Yaml.quoted? lexer.inFlow lexer.indent lexer.cursor
  let lexer ← (lexer.moveTo behind).skipLayout?
  return { lexer with colonIndex := some lexer.cursor.index }.push (.scalar false text)

/-- Reads a plain scalar. -/
def plain? (lexer : Lexer) : Option Lexer := do
  let lexer := (lexer.saveKey.allowKey false).closeValues
  let (text, behind) ← Yaml.plain? lexer.inFlow lexer.indent lexer.cursor
  return ((lexer.allowKey behind.isLeading).moveTo behind).push (.scalar true text)

/-- Reads a scalar in lines of its own. -/
def block? (lexer : Lexer) : Option Lexer := do
  let lexer := (lexer.saveKey.allowKey true).closeValues
  let (text, behind) ← Yaml.block? lexer.indent lexer.cursor
  return (lexer.moveTo behind).push (.scalar false text)

/-! ### Tokens -/

/-- Reads the token at the place, which is not the end of the text. -/
def here? (lexer : Lexer) : Option Lexer :=
  let cursor := lexer.cursor
  let text := cursor.text
  let rest := text.drop 1
  let isWord := endsWord rest
  let isColon := isWord || (lexer.inFlow &&
    (startsFlowMark rest || lexer.colonIndex = some cursor.index))
  if cursor.column = 0 && text.head? = some '%' then lexer.directive?
  else if cursor.column = 0 && startsMark '-' text then lexer.separator? .documentStart
  else if cursor.column = 0 && startsMark '.' text then lexer.documentEnd?
  else if (cursor.column : Int) < lexer.indent then none
  else match text.head? with
    | none => some lexer
    | some '[' => lexer.openBracket? .flowListStart
    | some '\x7b' => lexer.openBracket? .flowTableStart
    | some ']' => lexer.closeBracket? .flowListEnd
    | some '\x7d' => lexer.closeBracket? .flowTableEnd
    | some ',' => lexer.comma?
    | some '*' => lexer.anchor? .alias
    | some '&' => lexer.anchor? .anchor
    | some '!' => lexer.tag?
    | some '\x27' => lexer.quoted?
    | some '"' => lexer.quoted?
    | some '-' => if isWord then lexer.item? else lexer.plain?
    | some '?' => if isWord then lexer.key? else lexer.plain?
    | some ':' => if isColon then lexer.value? else lexer.plain?
    | some '|' => if lexer.inFlow then lexer.plain? else lexer.block?
    | some '>' => if lexer.inFlow then lexer.plain? else lexer.block?
    | some '%' => none
    | some '@' => none
    | some '\x60' => none
    | _ => lexer.plain?

/-- Ends the text. -/
def finish? (lexer : Lexer) : Option (List Token) := do
  if lexer.keys.any fun key => (key.map KeyPlace.isRequired).getD false then none
  else return (lexer.closeBlocks (-1)).tokens.toList

/-- Reads the next token and the ends of blocks before it. -/
def next? (lexer : Lexer) : Option Lexer := do
  let lexer ← (← lexer.skipLayout?).dropStaleKey?
  let lexer := lexer.closeBlocks lexer.cursor.column
  if lexer.cursor.text.isEmpty then some lexer else lexer.here?

/-- Reads tokens up to the end of the text. -/
def run? : Nat → Lexer → Option (List Token)
  | 0, _ => none
  | fuel + 1, lexer => do
      let lexer ← lexer.next?
      if lexer.cursor.text.isEmpty then
        let lexer ← lexer.skipLayout?
        lexer.finish?
      else run? fuel lexer

end Lexer

/-- The tokens of a text. -/
def tokens? (text : List Char) : Option (List Token) := Lexer.run? (text.length + 2) (.start text)

end Audience.Yaml
