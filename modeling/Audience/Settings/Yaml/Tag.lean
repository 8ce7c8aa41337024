import Audience.Settings.Yaml.Cursor
import Audience.Text.CodePoint

/-!
# Anchors, tags and directives of YAML

* **`Yaml.anchorName?`**: the name of an anchor or an alias, and the place behind it.
* **`Yaml.TagName`** and **`Yaml.TagName.read?`**: a tag as it is written: a handle and a rest.
* **`Yaml.Directive`** and **`Yaml.Directive.read?`**: a line that says what the handles of tags stand
  for, or which version of YAML a document has.
-/

namespace Audience.Yaml

/-! ### Characters -/

/-- Whether a character may stand in the handle of a tag. -/
def isHandleChar (c : Char) : Bool := c.isAlphanum || c = '_' || c = '-'

/-- Whether a character may stand in a locator. -/
def isLocatorChar (c : Char) : Bool :=
  c.isAlphanum || c = '-' || "#;/?:@&=+$,_.!~*\x27()[]%".toList.contains c

/-- Whether a character may stand in the rest of a tag. -/
def isTagChar (c : Char) : Bool := isLocatorChar c && !isFlowMark c && c ≠ '!'

/-- Whether a character may stand in the name of an anchor. -/
def isAnchorChar (c : Char) : Bool := !isSpace c && !isFlowMark c && c ≠ '\ufeff'

/-! ### Words -/

/-- The name of an anchor or an alias behind its mark. -/
def anchorName? (cursor : Cursor) : Option (String × Cursor) :=
  let name := (cursor.text.drop 1).takeWhile isAnchorChar
  if name.isEmpty then none else some (String.ofList name, cursor.skip (name.length + 1))

/-- The byte that an escape in a locator stands for. -/
def escapedByte? : List Char → Option Nat
  | '%' :: high :: low :: _ => do return 16 * (← Text.hexDigit? high) + (← Text.hexDigit? low)
  | _ => none

/-- The number of bytes of a character by its first one. -/
def byteCount? (first : Nat) : Option Nat :=
  if first < 0x80 then some 1
  else if 0xc0 ≤ first && first < 0xe0 then some 2
  else if 0xe0 ≤ first && first < 0xf0 then some 3
  else if 0xf0 ≤ first && first < 0xf8 then some 4
  else none

/-- The character that escapes in a locator stand for, and the number of their characters. The bytes
are the digits of its code point. -/
def escapedChar? (text : List Char) : Option (Char × Nat) := do
  let first ← escapedByte? text
  let count ← byteCount? first
  let code ← (List.range (count - 1)).foldlM (fun code i => do
    let byte ← escapedByte? (text.drop (3 * (i + 1)))
    if 0x80 ≤ byte && byte < 0xc0 then some (256 * code + byte) else none) first
  return (← Text.ofCodePoint? code, 3 * count)

/-- The characters of a class in front of a text, escapes replaced, after what is `read`, and how many
characters they take. -/
def locator? (isPart : Char → Bool) : Nat → List Char → Nat → List Char → Option (List Char × Nat)
  | 0, read, count, _ => some (read, count)
  | fuel + 1, read, count, text =>
      match text with
      | [] => some (read, count)
      | c :: rest =>
          if !isPart c then some (read, count)
          else if c = '%' then do
            let (shown, width) ← escapedChar? text
            locator? isPart fuel (read ++ [shown]) (count + width) (text.drop width)
          else locator? isPart fuel (read ++ [c]) (count + 1) rest

/-- The handle of a tag in front of a text, with its exclamation marks. -/
def handle? (text : List Char) : Option (List Char) :=
  match text with
  | '!' :: rest =>
      let name := rest.takeWhile isHandleChar
      some ('!' :: name ++ if (rest.drop name.length).head? = some '!' then ['!'] else [])
  | _ => none

/-- Whether the handle of a tag has a mark at both ends. -/
def isClosedHandle (handle : List Char) : Bool :=
  2 ≤ handle.length && handle.head? = some '!' && handle.getLast? = some '!'

/-! ### Tags -/

/-- A tag as it is written. -/
structure TagName where
  handle : String
  rest : String
  deriving DecidableEq

namespace TagName

/-- The tag in front of a text, and the number of its characters. -/
def ofChars? (text : List Char) : Option (TagName × Nat) := do
  let fuel := text.length
  if (text.drop 1).head? = some '<' then
    let (read, count) ← locator? isLocatorChar fuel [] 0 (text.drop 2)
    if (text.drop (count + 2)).head? = some '>' then
      some (⟨"", String.ofList read⟩, count + 3)
    else none
  else
    let handle ← handle? text
    let (read, count) ← locator? isTagChar fuel [] 0 (text.drop handle.length)
    if isClosedHandle handle then
      if count = 0 then none
      else some (⟨String.ofList handle, String.ofList read⟩, handle.length + count)
    else
      let rest := handle.drop 1 ++ read
      some (if rest.isEmpty then ⟨"", "!"⟩ else ⟨"!", String.ofList rest⟩, handle.length + count)

/-- The tag at a place, and the place behind it, where a word must end. -/
def read? (inFlow : Bool) (cursor : Cursor) : Option (TagName × Cursor) := do
  let (tag, count) ← ofChars? cursor.text
  let behind := cursor.skip count
  if endsWord behind.text || (inFlow && startsFlowMark behind.text) then some (tag, behind) else none

end TagName

/-! ### Directives -/

/-- A line in front of a document. -/
inductive Directive
  /-- The version of YAML. -/
  | version
  /-- What the handle of a tag stands for. -/
  | handle (name start : String)
  deriving DecidableEq

namespace Directive

/-- The version number in front of a text, of at most nine digits, and its length. -/
def numberLength? (text : List Char) : Option Nat :=
  let digits := (text.takeWhile Char.isDigit).length
  if digits = 0 || 9 < digits then none else some digits

/-- The length of a version in front of a text. -/
def versionLength? (text : List Char) : Option Nat := do
  let major ← numberLength? text
  match text.drop major with
  | '.' :: rest => return major + 1 + (← numberLength? rest)
  | _ => none

/-- What a handle stands for, and its length. -/
def startOfTags? (text : List Char) : Option (List Char × Nat) :=
  match text with
  | '!' :: rest => locator? isLocatorChar rest.length ['!'] 1 rest
  | c :: _ => if isTagChar c then locator? isLocatorChar text.length [] 0 text else none
  | [] => none

/-- The directive of a name whose value stands at a place, and the place behind it. -/
def value? (name : String) (cursor : Cursor) : Option (Directive × Cursor) := do
  let skipBlanks (cursor : Cursor) : Cursor :=
    cursor.skip (cursor.text.takeWhile isBlank).length
  if name = "YAML" then
    let cursor := skipBlanks cursor
    return (.version, cursor.skip (← versionLength? cursor.text))
  else if name = "TAG" then
    let cursor := skipBlanks cursor
    let handle ← handle? cursor.text
    if handle = ['!'] || isClosedHandle handle then
      let cursor := skipBlanks (cursor.skip handle.length)
      let (start, count) ← startOfTags? cursor.text
      let behind := cursor.skip count
      if endsWord behind.text then
        some (.handle (String.ofList handle) (String.ofList start), behind)
      else none
    else none
  else return (.handle "" "", cursor.skipLine)

/-- The directive at a place, and the place behind its line. -/
def read? (cursor : Cursor) : Option (Directive × Cursor) := do
  let name := (cursor.text.drop 1).takeWhile isHandleChar
  let cursor := cursor.skip (name.length + 1)
  if name.isEmpty || !endsWord cursor.text then none
  else
    let (directive, behind) ← value? (String.ofList name) cursor
    let (behind, _) ← behind.skipBlanks?
    match behind.text with
    | [] => some (directive, behind)
    | '\n' :: _ => some (directive, behind.skipLineEnd)
    | _ => none

end Directive

end Audience.Yaml
