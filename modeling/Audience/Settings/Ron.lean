import Audience.Settings.Value
import Audience.Text.CodePoint

/-!
# RON documents

The object notation with named and unnamed tuples in parentheses, tables in braces and lists in
brackets. A tuple whose first part has a name is a table, any other a list; the name in front of a
tuple does not matter, and a name without a tuple stands for nothing.

* **`Ron.number?`**: the number at the front of a text.
* **`Ron.value?`**: reads a value at the front of a text.
* **`Ron.ofText?`**: reads a document, of which no part stands in more than 128 others.
-/

namespace Audience.Ron

/-! ### Layout -/

/-- Whether a character may stand between tokens. -/
def isSpace (c : Char) : Bool := c = ' ' || c = '\n' || c = '\t' || c = '\r'

/-- The text after the end of a comment in which `depth` more are open. -/
def afterComment? (depth : Nat) : List Char → Option (List Char)
  | '*' :: '/' :: rest =>
      match depth with
      | 0 => some rest
      | depth + 1 => afterComment? depth rest
  | '/' :: '*' :: rest => afterComment? (depth + 1) rest
  | _ :: rest => afterComment? depth rest
  | [] => none

/-- The text after spaces and comments. -/
def skipLayout? : Nat → List Char → Option (List Char)
  | 0, _ => none
  | fuel + 1, text =>
      match text.dropWhile isSpace with
      | '/' :: '/' :: rest => skipLayout? fuel (rest.dropWhile (· ≠ '\n'))
      | '/' :: '*' :: rest => do skipLayout? fuel (← afterComment? 0 rest)
      | '/' :: _ => none
      | rest => some rest

/-- The text after all that may stand between tokens. -/
def skip? (text : List Char) : Option (List Char) := skipLayout? (text.length + 1) text

/-- The text after a mark and what may stand behind it. -/
def after? (mark : Char) (text : List Char) : Option (List Char) :=
  match text with
  | c :: rest => if c = mark then skip? rest else none
  | [] => none

/-- Whether a character may start a name. -/
def startsName (c : Char) : Bool := c.isAlpha || c = '_'

/-- Whether a character may stand in a name. -/
def isNameChar (c : Char) : Bool := c.isAlphanum || c = '_'

/-- Whether a character may stand in a raw name. -/
def isRawChar (c : Char) : Bool := isNameChar c || c = '.' || c = '+' || c = '-'

/-- The name at the front of a text, and the rest. -/
def name? (text : List Char) : Option (String × List Char) :=
  match text with
  | 'r' :: '"' :: _ => none
  | 'r' :: '#' :: rest =>
      let (name, rest) := rest.span isRawChar
      if name.isEmpty then none else some (String.ofList name, rest)
  | c :: _ =>
      if startsName c then
        let (name, rest) := text.span isNameChar
        some (String.ofList name, rest)
      else none
  | [] => none

/-! ### Strings -/

/-- The character of an escape and the text after it. -/
def escape? (text : List Char) : Option (Char × List Char) :=
  match text with
  | '\x27' :: rest => some ('\x27', rest)
  | '"' :: rest => some ('"', rest)
  | '\\' :: rest => some ('\\', rest)
  | 'n' :: rest => some ('\n', rest)
  | 'r' :: rest => some ('\r', rest)
  | 't' :: rest => some ('\t', rest)
  | '0' :: rest => some ('\x00', rest)
  | 'x' :: rest => Text.takeCodePoint? 2 rest
  | 'u' :: '\x7b' :: rest =>
      match rest.span (· ≠ '\x7d') with
      | (digits, _ :: rest) =>
          if digits.isEmpty || 6 < digits.length then none
          else (Text.codePoint? digits).map fun c => (c, rest)
      | _ => none
  | _ => none

/-- The rest of a string. -/
def stringRest? : Nat → List Char → List Char → Option (String × List Char)
  | 0, _, _ => none
  | fuel + 1, read, text =>
      match text with
      | '"' :: rest => some (String.ofList read.reverse, rest)
      | '\\' :: rest => do
          let (c, rest) ← escape? rest
          stringRest? fuel (c :: read) rest
      | c :: rest => stringRest? fuel (c :: read) rest
      | [] => none

/-- The rest of a raw string that a quote and some hash signs end. -/
def rawRest? (ending : List Char) (read : List Char) : List Char → Option (String × List Char)
  | [] => none
  | c :: rest =>
      if ending.isPrefixOf (c :: rest) then
        some (String.ofList read.reverse, (c :: rest).drop ending.length)
      else rawRest? ending (c :: read) rest

/-- A string at the front of a text. -/
def string? (text : List Char) : Option (String × List Char) :=
  match text with
  | '"' :: rest => stringRest? (rest.length + 1) [] rest
  | 'r' :: rest =>
      match rest.span (· = '#') with
      | (hashes, '"' :: rest) => rawRest? ('"' :: hashes) [] rest
      | _ => none
  | _ => none

/-- A character in quotes at the front of a text. -/
def character? (text : List Char) : Option (String × List Char) :=
  match text with
  | '\x27' :: '\\' :: rest => do
      let (c, rest) ← escape? rest
      match rest with
      | '\x27' :: rest => some (c.toString, rest)
      | _ => none
  | '\x27' :: c :: '\x27' :: rest => if c = '\x27' then none else some (c.toString, rest)
  | _ => none

/-! ### Numbers -/

/-- The value of digits in a base, underscores left out. -/
def digits? (base : Nat) (text : List Char) : Option Nat := do
  guard (!text.isEmpty && text.head? ≠ some '_')
  (text.filter (· ≠ '_')).foldlM (fun value c => do
    let digit ← Text.hexDigit? c
    if digit < base then some (base * value + digit) else none) 0

/-- Whether a character may stand in an integer. -/
def isIntegerChar (c : Char) : Bool := (Text.hexDigit? c).isSome || c = '_'

/-- Whether a character may stand in a real number. -/
def isRealChar (c : Char) : Bool :=
  c.isDigit || c = 'e' || c = 'E' || c = '.' || c = '+' || c = '-' || c = '_'

/-- An integer as a setting: a real number where it takes more than 63 bits, if it has no sign and
takes at most 64. -/
def ofInteger? (isSigned negative : Bool) (value : Nat) : Option Setting :=
  let small := Setting.ofInt? (if negative then -(value : Int) else value)
  if isSigned then small
  else small <|> (Setting.fitting? value).map fun value => .real (.ofInt value)

/-- An integer at the front of a text. -/
def integer? (text : List Char) : Option (Setting × List Char) := do
  let (negative, unsigned) := Text.takeSign text
  let isSigned := unsigned.length ≠ text.length
  let (base, unsigned) := match unsigned with
    | '0' :: 'x' :: rest => (16, rest)
    | '0' :: 'b' :: rest => (2, rest)
    | '0' :: 'o' :: rest => (8, rest)
    | _ => (10, unsigned)
  let (digits, rest) := unsigned.span isIntegerChar
  let value ← digits? base digits
  return (← ofInteger? isSigned negative value, rest)

/-- A real number at the front of a text. -/
def real? (text : List Char) : Option (Setting × List Char) := do
  let (word, rest) := text.span isRealChar
  let (negative, unsigned) := Text.takeSign word
  return (.real (← Binary64.unsigned? negative unsigned), rest)

/-- A number at the front of a text: the reading that takes in more of it, an integer before a real
number. -/
def number? (text : List Char) : Option (Setting × List Char) :=
  let (_, unsigned) := Text.takeSign text
  if (unsigned.takeWhile isIntegerChar).length < (unsigned.takeWhile isRealChar).length then real? text
  else integer? text <|> real? text

/-- The value that a word stands for, if it is not the name of a tuple. -/
def word? (name : String) : Option Setting :=
  if name = "true" then some (.boolean true)
  else if name = "false" then some (.boolean false)
  else if name = "None" then some .nothing
  else if name = "inf" then some (.real (.infinite false))
  else if name = "NaN" then some (.real .nan)
  else none

/-- The value of a number, or of the name of an infinity or NaN behind a sign. -/
def signed? (text : List Char) : Option (Setting × List Char) :=
  let (negative, unsigned) := Text.takeSign text
  match name? unsigned with
  | some (name, rest) =>
      if unsigned.length = text.length then none
      else if name = "inf" then some (.real (.infinite negative), rest)
      else if name = "NaN" then some (.real .nan, rest)
      else none
  | none => number? text

/-! ### Extensions -/

/-- The extensions of the notation. Of them only the second matters to values without a schema. -/
def extensions : List String := ["unwrap_newtypes", "implicit_some", "unwrap_variant_newtypes"]

/-- The names of extensions up to the closing parenthesis, and the text from there. -/
def extensionNames? : Nat → List String → List Char → Option (List String × List Char)
  | 0, _, _ => none
  | fuel + 1, found, text => do
      let (name, rest) ← name? text
      guard (extensions.contains name)
      let rest ← skip? rest
      match after? ',' rest with
      | none => return (name :: found, rest)
      | some rest =>
          if rest.head?.any isNameChar then extensionNames? fuel (name :: found) rest
          else return (name :: found, rest)

/-- The text after a word and what may stand behind it. -/
def afterWord? (word : List Char) (text : List Char) : Option (List Char) :=
  if word.isPrefixOf text then skip? (text.drop word.length) else none

/-- The extensions that the lines in front of a document turn on, and the document. -/
def takeExtensions? : Nat → List String → List Char → Option (List String × List Char)
  | 0, _, _ => none
  | fuel + 1, found, text => do
      match ← skip? text with
      | '#' :: rest =>
          let rest ← afterWord? ['['] (← afterWord? ['!'] (← skip? rest))
          let rest ← afterWord? ['('] (← afterWord? "enable".toList rest)
          let (found, rest) ← extensionNames? (rest.length + 1) found rest
          takeExtensions? fuel found (← afterWord? [']'] (← afterWord? [')'] rest))
      | rest => some (found, rest)

/-! ### Values -/

/-- Whether the text after an opening parenthesis starts with the name of a part. -/
def startsNamed (text : List Char) : Bool :=
  match name? text with
  | some (_, rest) => (skip? rest).any fun rest => rest.head? = some ':'
  | none => false

/-- The number of parts that may stand around a part. -/
def nestingLimit : Nat := 128

mutual

/-- A value at the front of a text; so many `levels` of parts may stand in it. `isImplicit` tells
whether `Some` needs no parentheses. -/
def value? (isImplicit : Bool) : Nat → Nat → List Char → Option (Setting × List Char)
  | 0, _, _ => none
  | fuel + 1, levels, text =>
      match name? text with
      | some (name, rest) =>
          match word? name with
          | some value => some (value, rest)
          | none => do
              let rest ← skip? rest
              if name = "Some" then option? isImplicit fuel levels rest
              else tuple? isImplicit fuel levels rest
      | none =>
          match text with
          | '(' :: ')' :: rest => some (.nothing, rest)
          | '(' :: _ => tuple? isImplicit fuel levels text
          | '[' :: rest => do items? isImplicit fuel levels ']' [] (← skip? rest)
          | '\x7b' :: rest => do members? isImplicit fuel levels false '\x7d' [] (← skip? rest)
          | '"' :: _ | 'r' :: _ => (string? text).map fun (value, rest) => (.text value, rest)
          | '\x27' :: _ => (character? text).map fun (value, rest) => (.text value, rest)
          | _ => signed? text

/-- A part of a value. -/
def part? (isImplicit : Bool) : Nat → Nat → List Char → Option (Setting × List Char)
  | 0, _, _ => none
  | fuel + 1, levels, text =>
      if levels = 0 then none else value? isImplicit fuel (levels - 1) text

/-- The value of an option. -/
def option? (isImplicit : Bool) : Nat → Nat → List Char → Option (Setting × List Char)
  | 0, _, _ => none
  | fuel + 1, levels, text =>
      match text with
      | '(' :: rest => do
          let (value, rest) ← part? isImplicit fuel levels (← skip? rest)
          let rest ← skip? rest
          match (after? ',' rest).getD rest with
          | ')' :: rest => some (value, rest)
          | _ => none
      | _ => if isImplicit then part? isImplicit fuel levels text else none

/-- A tuple; nothing where there is none. -/
def tuple? (isImplicit : Bool) : Nat → Nat → List Char → Option (Setting × List Char)
  | 0, _, _ => none
  | fuel + 1, levels, text =>
      match text with
      | '(' :: rest => do
          let rest ← skip? rest
          if startsNamed rest then members? isImplicit fuel levels true ')' [] rest
          else items? isImplicit fuel levels ')' [] rest
      | _ => some (.nothing, text)

/-- The rest of a list or of a tuple without names. -/
def items? (isImplicit : Bool) :
    Nat → Nat → Char → List Setting → List Char → Option (Setting × List Char)
  | 0, _, _, _, _ => none
  | fuel + 1, levels, ending, found, text =>
      if text.head? = some ending then some (.list found.reverse, text.drop 1)
      else do
        let (item, rest) ← part? isImplicit fuel levels text
        let rest ← skip? rest
        match after? ',' rest with
        | some rest => items? isImplicit fuel levels ending (item :: found) rest
        | none =>
            if rest.head? = some ending then some (.list (item :: found).reverse, rest.drop 1)
            else none

/-- The rest of a table or of a tuple with names; the last of equal keys counts. -/
def members? (isImplicit : Bool) : Nat → Nat → Bool → Char → List (String × Setting) → List Char →
    Option (Setting × List Char)
  | 0, _, _, _, _, _ => none
  | fuel + 1, levels, named, ending, found, text =>
      if text.head? = some ending then some (.table found, text.drop 1)
      else do
        let (key, rest) ← if named then name? text else string? text <|> character? text
        let (value, rest) ← part? isImplicit fuel levels (← after? ':' (← skip? rest))
        let found := Json.put found key value
        let rest ← skip? rest
        match after? ',' rest with
        | some rest => members? isImplicit fuel levels named ending found rest
        | none => if rest.head? = some ending then some (.table found, rest.drop 1) else none

end

/-- Reads a document. -/
def ofText? (text : String) : Option Setting := do
  let (names, text) ← takeExtensions? (text.length + 1) [] text.toList
  let isImplicit := names.contains "implicit_some"
  let (value, rest) ← value? isImplicit (4 * text.length + 4) nestingLimit text
  if (← skip? rest).isEmpty then some value else none

end Audience.Ron
