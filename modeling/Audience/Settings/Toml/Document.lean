import Audience.Settings.Toml.Table

/-!
# TOML documents

* **`Toml.value?`**: reads a value at the front of a text.
* **`Toml.ofText?`**: reads a document. Its keys have fewer than 80 names, and its lists and tables on
  one line are nested less than 80 deep.
-/

namespace Audience.Toml

/-- How many names a key may have, and how deep values may be nested. -/
def nestingLimit : Nat := 79

mutual

/-- A value at the front of a text; `levels` more may be nested in it. -/
def value? : Nat → Nat → List Char → Option (Node × List Char)
  | 0, _, _ => none
  | fuel + 1, levels, text =>
      match text with
      | '"' :: _ | '\x27' :: _ =>
          (string? text).map fun (value, rest) => (.scalar (.plain (.text value)), rest)
      | '[' :: rest => if levels = 0 then none else items? fuel (levels - 1) [] rest
      | '\x7b' :: rest =>
          if levels = 0 then none
          else match skipBlanks rest with
            | '\x7d' :: rest => some (.closed [], rest)
            | rest => inlineMembers? fuel (levels - 1) [] rest
      | _ => do
          let (word, rest) := takeWord text
          return (.scalar (← scalar? word), rest)

/-- The rest of an array. -/
def items? : Nat → Nat → List Node → List Char → Option (Node × List Char)
  | 0, _, _, _ => none
  | fuel + 1, levels, found, text =>
      match skipLayout (text.length + 1) text with
      | ']' :: rest => some (.list found.reverse, rest)
      | text => do
          let (item, rest) ← value? fuel levels text
          match skipLayout (rest.length + 1) rest with
          | ',' :: rest => items? fuel levels (item :: found) rest
          | ']' :: rest => some (.list (item :: found).reverse, rest)
          | _ => none

/-- The rest of a table on one line. -/
def inlineMembers? : Nat → Nat → Members → List Char → Option (Node × List Char)
  | 0, _, _, _ => none
  | fuel + 1, levels, found, text => do
      let (path, rest) ← key? nestingLimit text
      let '=' :: rest := rest | none
      let (value, rest) ← value? fuel levels (skipBlanks rest)
      let name ← path.getLast?
      let found ← found.change? true (Members.add? name value) path.dropLast
      match skipBlanks rest with
      | ',' :: rest => inlineMembers? fuel levels found rest
      | '\x7d' :: rest => some (.closed found, rest)
      | _ => none

end

/-- A document under construction: its tables, and the path of the table that is open. -/
structure Document where
  root : Members
  current : List String

namespace Document

/-- Reads a header after its first bracket. -/
def header? (document : Document) (text : List Char) : Option (Document × List Char) := do
  let (inRow, text) := match text with
    | '[' :: rest => (true, rest)
    | _ => (false, text)
  let (path, rest) ← key? nestingLimit text
  let name ← path.getLast?
  let change := if inRow then Members.openRow? name else Members.openTable? name
  let root ← document.root.change? false change path.dropLast
  let rest ← match inRow, rest with
    | true, ']' :: ']' :: rest => some rest
    | false, ']' :: rest => some rest
    | _, _ => none
  return (⟨root, path⟩, ← endLine? rest)

/-- Reads a key and its value. -/
def pair? (document : Document) (text : List Char) : Option (Document × List Char) := do
  let (path, rest) ← key? nestingLimit text
  let '=' :: rest := rest | none
  let (value, rest) ← value? (text.length + 1) nestingLimit (skipBlanks rest)
  let name ← path.getLast?
  let add (members : Members) : Option Members :=
    members.change? true (Members.add? name value) path.dropLast
  let root ← document.root.change? false add document.current
  return ({ document with root }, ← endLine? rest)

/-- Reads line after line. -/
def lines? : Nat → Document → List Char → Option Document
  | 0, _, _ => none
  | fuel + 1, document, text =>
      match skipLayout (text.length + 1) text with
      | [] => some document
      | '[' :: rest => do
          let (document, rest) ← document.header? rest
          lines? fuel document rest
      | text => do
          let (document, rest) ← document.pair? text
          lines? fuel document rest

end Document

/-- Reads a document; a byte order mark in front of it is passed over. -/
def ofText? (text : String) : Option Setting := do
  let text := match text.toList with
    | '\ufeff' :: rest => rest
    | text => text
  let document ← Document.lines? (text.length + 1) ⟨[], []⟩ text
  tableSetting? document.root

end Audience.Toml
