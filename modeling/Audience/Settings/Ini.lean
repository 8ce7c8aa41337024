import Audience.Settings.Value
import Audience.Text.CodePoint

/-!
# INI documents

A document is a row of section headers in brackets, pairs of a key and a value, and comments that
start a line. A key ends at the first equals sign or colon, a value at the end of its line unless it
is quoted; a backslash starts an escape. All values are texts.

* **`Ini.Document`**: the pairs outside all sections, and the sections.
* **`Ini.ofText?`**: reads a document as a table. Of sections with the same name the last one counts.
-/

namespace Audience.Ini

/-- The pairs of a section, in order. -/
abbrev Pairs := List (String × Setting)

/-- A document under construction; the last section comes first. -/
structure Document where
  general : Pairs
  sections : List (String × Pairs)

/-- Adds a pair to the section that is open. -/
def Document.add (document : Document) (key value : String) : Document :=
  match document.sections with
  | [] => { document with general := document.general ++ [(key, .text value)] }
  | (name, pairs) :: before =>
      { document with sections := (name, pairs ++ [(key, .text value)]) :: before }

/-- The document as a table. -/
def Document.setting (document : Document) : Setting :=
  .table (Json.ordered (document.general ++
    document.sections.reverse.map fun (name, pairs) => (name, .table (Json.ordered pairs))))

/-- The text without blanks around it. -/
def trim (text : List Char) : String :=
  String.ofList (Text.dropBlanks (Text.dropBlanks text).reverse).reverse

/-- What an escape stands for, and the text after it; the end of a line stands for nothing. -/
def escape? (text : List Char) : Option (List Char × List Char) :=
  match text with
  | '0' :: rest => some (['\x00'], rest)
  | 'a' :: rest => some (['\x07'], rest)
  | 'b' :: rest => some (['\x08'], rest)
  | 't' :: rest => some (['\t'], rest)
  | 'r' :: rest => some (['\r'], rest)
  | 'n' :: rest => some (['\n'], rest)
  | '\n' :: rest => some ([], rest)
  | 'x' :: '+' :: rest => (Text.takeCodePoint? 3 rest).map fun (c, rest) => ([c], rest)
  | 'x' :: rest => (Text.takeCodePoint? 4 rest).map fun (c, rest) => ([c], rest)
  | c :: rest => some ([c], rest)
  | [] => none

/-- The text up to a character that ends it, escapes replaced, and the rest from that character on;
`unended` tells whether the end of the document ends it too. -/
def upTo? (isEnd : Char → Bool) (unended : Bool) :
    Nat → List Char → List Char → Option (List Char × List Char)
  | 0, _, _ => none
  | fuel + 1, read, text =>
      match text with
      | [] => if unended then some (read.reverse, []) else none
      | c :: rest =>
          if isEnd c then some (read.reverse, c :: rest)
          else if c = '\\' then do
            let (shown, rest) ← escape? rest
            upTo? isEnd unended fuel (shown.reverse ++ read) rest
          else upTo? isEnd unended fuel (c :: read) rest

/-- The rest of a line. -/
def line? (text : List Char) : Option (List Char × List Char) :=
  upTo? (fun c => c = '\n' || c = '\r') true (text.length + 1) [] text

/-- The value after an equals sign or colon: what stands in quotes and what follows it, or the rest of
the line. -/
def value? (text : List Char) : Option (List Char × List Char) :=
  let text := text.dropWhile fun c => Text.isBlank c && c ≠ '\n' && c ≠ '\r'
  match text with
  | quote :: rest =>
      if quote = '"' || quote = '\x27' then do
        let (inside, rest) ← upTo? (· = quote) false (rest.length + 1) [] rest
        let (after, rest) ← line? (rest.drop 1)
        return (inside ++ after, rest)
      else line? text
  | [] => some ([], [])

/-- Passes over blanks; tells whether what follows starts a line. -/
def skipBlanks (atStart : Bool) : List Char → Bool × List Char
  | [] => (atStart, [])
  | c :: rest => if Text.isBlank c then skipBlanks (c = '\n') rest else (atStart, c :: rest)

/-- Reads headers, pairs and comments; `atStart` tells whether the text starts a line. -/
def lines? : Nat → Bool → Document → List Char → Option Document
  | 0, _, _, _ => none
  | fuel + 1, atStart, document, text =>
      match skipBlanks atStart text with
      | (_, []) => some document
      | (starts, c :: rest) =>
          if c = ';' || c = '#' then
            if starts then
              lines? fuel true document ((rest.dropWhile (· ≠ '\n')).drop 1)
            else none
          else if c = '[' then do
            let (name, rest) ← upTo? (· = ']') false (rest.length + 1) [] rest
            lines? fuel false { document with sections := (trim name, []) :: document.sections }
              (rest.drop 1)
          else do
            let (key, rest) ← upTo? (fun c => c = '=' || c = ':') false (rest.length + 2) [] (c :: rest)
            guard (trim key ≠ "")
            let (value, rest) ← value? (rest.drop 1)
            lines? fuel false (document.add (trim key) (trim value)) rest

/-- Reads a document. -/
def ofText? (text : String) : Option Setting := do
  let document ← lines? (text.length + 1) true ⟨[], []⟩ text.toList
  return document.setting

end Audience.Ini
