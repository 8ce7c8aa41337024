import Audience.Text.CodePoint

/-!
# Layout, strings and keys of TOML documents

* **`Toml.skipLayout`**, **`Toml.endLine?`**: blanks, comments and ends of lines.
* **`Toml.string?`**: the string at the front of a text, on one line or several.
* **`Toml.key?`**: the dotted key at the front of a text.
-/

namespace Audience.Toml

/-! ### Layout -/

/-- Whether a character may stand in a comment or a string on one line. -/
def isTextChar (c : Char) : Bool := c = '\t' || (0x20 ≤ c.toNat && c.toNat ≠ 0x7f)

/-- The text after blanks. -/
def skipBlanks (text : List Char) : List Char := text.dropWhile fun c => c = ' ' || c = '\t'

/-- The text after a comment, if one stands at the front. -/
def skipComment (text : List Char) : List Char :=
  match text with
  | '#' :: rest => rest.dropWhile isTextChar
  | _ => text

/-- The text after the end of a line. -/
def afterNewline? (text : List Char) : Option (List Char) :=
  match text with
  | '\n' :: rest => some rest
  | '\r' :: '\n' :: rest => some rest
  | _ => none

/-- The text after blanks, a comment and the end of the line or of the document. -/
def endLine? (text : List Char) : Option (List Char) :=
  match skipComment (skipBlanks text) with
  | [] => some []
  | rest => afterNewline? rest

/-- The text after blanks, comments and ends of lines. -/
def skipLayout : Nat → List Char → List Char
  | 0, text => text
  | lines + 1, text =>
      let rest := skipComment (skipBlanks text)
      match afterNewline? rest with
      | some next => skipLayout lines next
      | none => rest

/-- The text after blanks and ends of lines. -/
def skipEmpty : List Char → List Char
  | '\r' :: '\n' :: rest => skipEmpty rest
  | c :: rest => if c = ' ' || c = '\t' || c = '\n' then skipEmpty rest else c :: rest
  | [] => []

/-! ### Strings -/

/-- The character of an escape and the text after it. -/
def escape? (text : List Char) : Option (Char × List Char) :=
  match text with
  | 'b' :: rest => some ('\x08', rest)
  | 't' :: rest => some ('\t', rest)
  | 'n' :: rest => some ('\n', rest)
  | 'f' :: rest => some ('\x0c', rest)
  | 'r' :: rest => some ('\r', rest)
  | '"' :: rest => some ('"', rest)
  | '\\' :: rest => some ('\\', rest)
  | 'u' :: rest => Text.takeCodePoint? 4 rest
  | 'U' :: rest => Text.takeCodePoint? 8 rest
  | _ => none

/-- The rest of a string on one line; `quote` ends it and `escapes` tells whether it has escapes. -/
def line? (quote : Char) (escapes : Bool) :
    Nat → List Char → List Char → Option (String × List Char)
  | 0, _, _ => none
  | fuel + 1, read, text =>
      match text with
      | [] => none
      | c :: rest =>
          if c = quote then some (String.ofList read.reverse, rest)
          else if c = '\\' && escapes then do
            let (shown, rest) ← escape? rest
            line? quote escapes fuel (shown :: read) rest
          else if isTextChar c then line? quote escapes fuel (c :: read) rest
          else none

/-- The text after a backslash at the end of a line: the next character that is not blank. -/
def afterContinuation? (text : List Char) : Option (List Char) := do
  return skipEmpty (← afterNewline? (skipBlanks text))

/-- The rest of a string over several lines, which ends with three quotes; two more may stand before
them. -/
def lines? (quote : Char) (escapes : Bool) :
    Nat → List Char → List Char → Option (String × List Char)
  | 0, _, _ => none
  | fuel + 1, read, text =>
      match text with
      | [] => none
      | c :: rest =>
          if c = quote then
            let quotes := text.takeWhile (· = quote)
            if 5 < quotes.length then none
            else if 3 ≤ quotes.length then
              some (String.ofList (read.reverse ++ quotes.drop 3), text.drop quotes.length)
            else lines? quote escapes fuel (c :: read) rest
          else if c = '\\' && escapes then
            match afterContinuation? rest with
            | some next => lines? quote escapes fuel read next
            | none => do
                let (shown, rest) ← escape? rest
                lines? quote escapes fuel (shown :: read) rest
          else match afterNewline? text with
            | some next => lines? quote escapes fuel ('\n' :: read) next
            | none => if isTextChar c then lines? quote escapes fuel (c :: read) rest else none

/-- A string at the front of a text. -/
def string? (text : List Char) : Option (String × List Char) :=
  let fuel := text.length + 1
  let opened (rest : List Char) : List Char := (afterNewline? rest).getD rest
  match text with
  | '"' :: '"' :: '"' :: rest => lines? '"' true fuel [] (opened rest)
  | '\x27' :: '\x27' :: '\x27' :: rest => lines? '\x27' false fuel [] (opened rest)
  | '"' :: rest => line? '"' true fuel [] rest
  | '\x27' :: rest => line? '\x27' false fuel [] rest
  | _ => none

/-! ### Keys -/

/-- Whether a character may stand in a key without quotes. -/
def isBareChar (c : Char) : Bool := c.isAlphanum || c = '_' || c = '-'

/-- A key without dots at the front of a text. -/
def simpleKey? (text : List Char) : Option (String × List Char) :=
  match text with
  | '"' :: rest => line? '"' true text.length [] rest
  | '\x27' :: rest => line? '\x27' false text.length [] rest
  | _ =>
      let (name, rest) := text.span isBareChar
      if name.isEmpty then none else some (String.ofList name, rest)

/-- A dotted key of at most so many names at the front of a text, and the text after it and its
blanks. -/
def key? : Nat → List Char → Option (List String × List Char)
  | 0, _ => none
  | names + 1, text => do
      let (first, rest) ← simpleKey? (skipBlanks text)
      match skipBlanks rest with
      | '.' :: rest => do
          let (others, rest) ← key? names rest
          return (first :: others, rest)
      | rest => return ([first], rest)

end Audience.Toml
