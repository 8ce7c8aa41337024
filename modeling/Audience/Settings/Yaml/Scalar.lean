import Audience.Settings.Yaml.Cursor
import Audience.Text.CodePoint

/-!
# Texts of YAML scalars

* **`Yaml.plain?`**, **`Yaml.quoted?`**, **`Yaml.block?`**: the text of a scalar without quotes, in
  quotes, and in lines of its own, and the place behind it.

An end of a line inside the first two stands for a blank, and more of them in a row stand for one end
of a line fewer.
-/

namespace Audience.Yaml

/-- What some ends of lines in a row stand for. -/
def folded (count : Nat) : List Char := if count = 1 then [' '] else List.replicate (count - 1) '\n'

/-- What stands between two words of a scalar: blanks on one line, or ends of lines. -/
structure Gap where
  blanks : List Char
  lineEnds : Nat

/-- What a gap stands for. -/
def Gap.text (gap : Gap) : List Char :=
  if gap.lineEnds = 0 then gap.blanks else folded gap.lineEnds

/-! ### Plain scalars -/

/-- The word of a plain scalar in front of a text. -/
def plainWord (inFlow : Bool) : List Char → List Char
  | [] => []
  | c :: rest =>
      if isSpace c || (inFlow && isFlowMark c) then []
      else if c = ':' && (endsWord rest || (inFlow && startsFlowMark rest)) then []
      else c :: plainWord inFlow rest

/-- The gap behind a word of a plain scalar. A tab may stand left of the column `least` only if nothing
but a comment follows it on its line. -/
def plainGap? (least : Int) : Nat → Gap → Cursor → Option (Gap × Cursor)
  | 0, gap, cursor => some (gap, cursor)
  | fuel + 1, gap, cursor =>
      match cursor.text with
      | '\n' :: _ => plainGap? least fuel ⟨[], gap.lineEnds + 1⟩ cursor.skipLineEnd
      | c :: _ =>
          if !isBlank c then some (gap, cursor)
          else if gap.lineEnds = 0 then
            plainGap? least fuel { gap with blanks := gap.blanks ++ [c] } (cursor.skipBlank 1)
          else if c = '\t' && (cursor.column : Int) < least then do
            let (behind, _) ← cursor.skipBlanks?
            if endsLine behind.text then plainGap? least fuel gap behind else none
          else plainGap? least fuel gap (cursor.skipBlank 1)
      | [] => some (gap, cursor)

/-- Goes on with a plain scalar behind a gap. -/
def plainRest? (inFlow : Bool) (least : Int) :
    Nat → List Char → Gap → Cursor → Option (List Char × Cursor)
  | 0, read, _, cursor => some (read, cursor)
  | fuel + 1, read, gap, cursor =>
      if cursor.isAtSeparator || cursor.text.head? = some '#' then some (read, cursor)
      else if inFlow && cursor.text.head? = some '-' && startsFlowMark (cursor.text.drop 1) then none
      else
        let word := plainWord inFlow cursor.text
        let read := if word.isEmpty then read else read ++ gap.text ++ word
        let behind := if word.isEmpty then cursor else cursor.skip word.length
        if behind.text.isEmpty || !endsWord behind.text then some (read, behind)
        else do
          let (gap, next) ← plainGap? least behind.text.length ⟨[], 0⟩ behind
          if !inFlow && (next.column : Int) < least then some (read, next)
          else plainRest? inFlow least fuel read gap next

/-- A plain scalar; `indent` is the column of the block around it. -/
def plain? (inFlow : Bool) (indent : Int) (cursor : Cursor) : Option (String × Cursor) := do
  let least := indent + 1
  if inFlow && (cursor.column : Int) < least then none
  else
    let (read, behind) ← plainRest? inFlow least (cursor.text.length + 1) [] ⟨[], 0⟩ cursor
    return (String.ofList read, behind)

/-! ### Scalars in quotes -/

/-- What an escape stands for, and the number of its characters. -/
def escape? (text : List Char) : Option (Char × Nat) :=
  let code? (digits : Nat) : Option (Char × Nat) :=
    (Text.takeCodePoint? digits (text.drop 1)).map fun (c, _) => (c, digits + 1)
  match text.head? with
  | some '0' => some ('\x00', 1)
  | some 'a' => some ('\x07', 1)
  | some 'b' => some ('\x08', 1)
  | some 't' => some ('\t', 1)
  | some '\t' => some ('\t', 1)
  | some 'n' => some ('\n', 1)
  | some 'v' => some ('\x0b', 1)
  | some 'f' => some ('\x0c', 1)
  | some 'r' => some ('\r', 1)
  | some 'e' => some ('\x1b', 1)
  | some ' ' => some (' ', 1)
  | some '"' => some ('"', 1)
  | some '/' => some ('/', 1)
  | some '\\' => some ('\\', 1)
  | some 'N' => some ('\u0085', 1)
  | some '_' => some ('\u00a0', 1)
  | some 'L' => some ('\u2028', 1)
  | some 'P' => some ('\u2029', 1)
  | some 'x' => code? 2
  | some 'u' => code? 4
  | some 'U' => code? 8
  | _ => none

/-- The characters of a scalar in quotes up to its end or the next blank, after what is `read`; and
whether an escaped end of a line follows them. -/
def quotedWord? (quote : Char) : Nat → List Char → Cursor → Option (List Char × Bool × Cursor)
  | 0, read, cursor => some (read, false, cursor)
  | fuel + 1, read, cursor =>
      match cursor.text with
      | [] => some (read, false, cursor)
      | c :: rest =>
          if isSpace c then some (read, false, cursor)
          else if c = quote then
            if c = '\x27' && rest.head? = some '\x27' then
              quotedWord? quote fuel (read ++ [c]) (cursor.skip 2)
            else some (read, false, cursor)
          else if c = '\\' && quote = '"' then
            if rest.head? = some '\n' then some (read, true, (cursor.skip 1).skipLineEnd)
            else do
              let (shown, count) ← escape? rest
              quotedWord? quote fuel (read ++ [shown]) (cursor.skip (count + 1))
          else quotedWord? quote fuel (read ++ [c]) (cursor.skip 1)

/-- The gap behind a word of a scalar in quotes; `isBroken` tells whether a line has ended. A tab may
not stand left of the column `indent`. -/
def quotedGap? (indent : Int) : Nat → Bool → Gap → Cursor → Option (Gap × Cursor)
  | 0, _, gap, cursor => some (gap, cursor)
  | fuel + 1, isBroken, gap, cursor =>
      match cursor.text with
      | '\n' :: _ => quotedGap? indent fuel true ⟨[], gap.lineEnds + 1⟩ cursor.skipLineEnd
      | c :: _ =>
          if !isBlank c then some (gap, cursor)
          else if !isBroken then
            quotedGap? indent fuel isBroken { gap with blanks := gap.blanks ++ [c] }
              (cursor.skipBlank 1)
          else if c = '\t' && (cursor.column : Int) < indent then none
          else quotedGap? indent fuel isBroken gap (cursor.skipBlank 1)
      | [] => some (gap, cursor)

/-- The rest of a scalar in quotes. In double quotes a backslash starts an escape and takes an end of
a line away; in single quotes a quote is written twice. -/
def quotedRest? (quote : Char) (indent : Int) :
    Nat → List Char → Cursor → Option (List Char × Cursor)
  | 0, _, _ => none
  | fuel + 1, read, cursor =>
      if cursor.isAtSeparator || cursor.text.isEmpty || (cursor.column : Int) < indent then none
      else do
        let (read, isEscaped, behind) ← quotedWord? quote cursor.text.length read cursor
        if behind.text.head? = some quote then some (read, behind.skip 1)
        else
          let (gap, next) ← quotedGap? indent behind.text.length isEscaped ⟨[], 0⟩ behind
          let shown := if isEscaped then List.replicate gap.lineEnds '\n' else gap.text
          quotedRest? quote indent fuel (read ++ shown) next

/-- Whether a text may follow a scalar in quotes; a colon outside of brackets only on the line where
the scalar starts. -/
def mayFollowQuote (inFlow isOneLine : Bool) : List Char → Bool
  | [] => true
  | c :: _ =>
      c = '\n' || (inFlow && (c = ',' || c = ']' || c = '\x7d')) || (c = ':' && (inFlow || isOneLine))

/-- A scalar in quotes; `indent` is the column of the block around it. -/
def quoted? (inFlow : Bool) (indent : Int) (cursor : Cursor) : Option (String × Cursor) := do
  let quote ← cursor.text.head?
  let (read, behind) ← quotedRest? quote indent (cursor.text.length + 1) [] (cursor.skip 1)
  let (behind, _) ← behind.skipBlanks?
  if mayFollowQuote inFlow (behind.line = cursor.line) behind.text then
    some (String.ofList read, behind)
  else none

/-! ### Scalars in lines of their own -/

/-- What becomes of the ends of lines behind the last line with text. -/
inductive Chomping
  | strip
  | clip
  | keep
  deriving DecidableEq

/-- What stands behind the mark of a block scalar: how it ends, and how far it is indented. -/
structure BlockHeader where
  chomping : Chomping
  indentation : Option Nat

/-- The header in front of a text, and the number of its characters. -/
def BlockHeader.read? (text : List Char) : Option (BlockHeader × Nat) :=
  let chomping? : Option Char → Option Chomping
    | some '+' => some .keep
    | some '-' => some .strip
    | _ => none
  let digit? : Option Char → Option Nat
    | some c => if c.isDigit then some (c.toNat - '0'.toNat) else none
    | none => none
  let header := match chomping? text.head?, digit? text.head? with
    | some chomping, _ =>
        match digit? (text.drop 1).head? with
        | some digit => (⟨chomping, some digit⟩, 2)
        | none => (⟨chomping, none⟩, 1)
    | none, some digit =>
        match chomping? (text.drop 1).head? with
        | some chomping => (⟨chomping, some digit⟩, 2)
        | none => (⟨.clip, some digit⟩, 1)
    | none, none => (⟨.clip, none⟩, 0)
  if header.1.indentation = some 0 then none else some header

/-- Passes over empty lines and over the indentation, of at most `indentation` blanks, of the next line;
counts the lines. -/
def skipEmptyLines (indentation : Nat) : Nat → Nat → Cursor → Nat × Cursor
  | 0, count, cursor => (count, cursor)
  | fuel + 1, count, cursor =>
      match cursor.text with
      | ' ' :: _ =>
          if cursor.column < indentation then
            skipEmptyLines indentation fuel count (cursor.skipBlank 1)
          else (count, cursor)
      | '\n' :: _ => skipEmptyLines indentation fuel (count + 1) cursor.skipLineEnd
      | _ => (count, cursor)

/-- Passes over empty lines and the indentation of the next line; counts the lines and finds the
largest column. -/
def skipFirstLines : Nat → Nat → Nat → Cursor → Nat × Nat × Cursor
  | 0, count, largest, cursor => (count, largest, cursor)
  | fuel + 1, count, largest, cursor =>
      match cursor.text with
      | ' ' :: _ => skipFirstLines fuel count (max largest (cursor.column + 1)) (cursor.skipBlank 1)
      | '\n' :: _ => skipFirstLines fuel (count + 1) largest cursor.skipLineEnd
      | _ => (count, largest, cursor)

/-- Whether a blank stands in front of a text. -/
def startsBlank : List Char → Bool
  | [] => false
  | c :: _ => isBlank c

/-- A block scalar of which some lines are read. -/
structure BlockLines where
  read : List Char
  /-- Whether the end of the last line is not read yet. -/
  isPending : Bool
  /-- Whether the last line starts with a blank. -/
  isIndented : Bool
  /-- The number of empty lines behind it. -/
  emptyLines : Nat
  cursor : Cursor

/-- Reads the lines that stand in the column `indentation`. The end of a line between two lines that
start without a blank is folded if `isFolded`. -/
def BlockLines.readLines (isFolded : Bool) (indentation : Nat) : Nat → BlockLines → BlockLines
  | 0, lines => lines
  | fuel + 1, lines =>
      let cursor := lines.cursor
      if cursor.column ≠ indentation || cursor.text.isEmpty || cursor.isAtSeparator then lines
      else
        let isIndented := startsBlank cursor.text
        let empty := List.replicate lines.emptyLines '\n'
        let ending :=
          if isFolded && lines.isPending && !lines.isIndented && !isIndented then
            if lines.emptyLines = 0 then [' '] else empty
          else (if lines.isPending then ['\n'] else []) ++ empty
        let line := cursor.text.takeWhile (· ≠ '\n')
        let read := lines.read ++ ending ++ line
        let behind := cursor.skip line.length
        if behind.text.isEmpty then ⟨read, false, isIndented, 0, behind⟩
        else
          let next := behind.skipLineEnd
          let (emptyLines, next) := skipEmptyLines indentation next.text.length 0 next
          readLines isFolded indentation fuel ⟨read, true, isIndented, emptyLines, next⟩

/-- The text of a block scalar, with what its chomping leaves of its end. -/
def BlockLines.text (lines : BlockLines) (chomping : Chomping) (indentation : Nat) : List Char :=
  let lineEnd := if lines.isPending then ['\n'] else []
  let isOpen := lines.cursor.text.isEmpty && max indentation 1 ≤ lines.cursor.column
  match chomping with
  | .strip => lines.read
  | .clip => lines.read ++ lineEnd ++ (if isOpen then ['\n'] else [])
  | .keep =>
      lines.read ++ lineEnd ++ (if isOpen then ['\n'] else []) ++
        List.replicate lines.emptyLines '\n'

/-- The text of a block scalar without lines at the end of a document. -/
def emptyBlock (chomping : Chomping) (hasLineEnd : Bool) (emptyLines : Nat) : List Char :=
  if chomping = .strip || !hasLineEnd then []
  else if chomping = .clip || emptyLines = 0 then ['\n']
  else List.replicate emptyLines '\n'

/-- A block scalar; `indent` is the column of the block around it. -/
def block? (indent : Int) (cursor : Cursor) : Option (String × Cursor) := do
  let isFolded := cursor.text.head? = some '>'
  let (header, count) ← BlockHeader.read? (cursor.text.drop 1)
  let (behind, _) ← (cursor.skip (count + 1)).skipBlanks?
  if !endsLine behind.text then none
  else
    let hasLineEnd := !behind.text.isEmpty
    let first := if hasLineEnd then behind.skipLineEnd else behind
    if first.text.head? = some '\t' then none
    else
      let fuel := first.text.length
      let (emptyLines, indentation, start) := match header.indentation with
        | some digit =>
            let indentation := (max indent 0).toNat + digit
            let (emptyLines, start) := skipEmptyLines indentation fuel 0 first
            (emptyLines, indentation, start)
        | none =>
            let (emptyLines, largest, start) := skipFirstLines fuel 0 0 first
            (emptyLines, max largest (indent + 1).toNat, start)
      if start.text.isEmpty then
        some (String.ofList (emptyBlock header.chomping hasLineEnd emptyLines), start)
      else if start.column < indentation && indent < (start.column : Int) then none
      else
        let lines := BlockLines.readLines isFolded indentation (fuel + 1)
          ⟨[], false, false, emptyLines, start⟩
        some (String.ofList (lines.text header.chomping indentation), lines.cursor)

end Audience.Yaml
