import Audience.Settings.Value
import Audience.Text.CodePoint
import Audience.Text.Letter

/-!
# JSON5 documents

JSON with comments, keys without quotes, strings in single quotes, commas after the last item, and
more ways to write a number.

* **`Json5.number?`**: the value of a number. Integers must fit 64 bits, hexadecimal ones 32 and have
  no sign.
* **`Json5.value?`**: reads a value at the front of a text.
* **`Json5.ofText?`**: reads a document.
-/

namespace Audience.Json5

/-! ### Layout -/

/-- Whether a character ends a line. -/
def isLineEnd (c : Char) : Bool := c = '\n' || c = '\r' || c = '\u2028' || c = '\u2029'

/-- Whether a character may stand between tokens. -/
def isSpace (c : Char) : Bool := (Text.isBlank c && c ≠ '\u0085') || c = '\ufeff'

/-- The text after the end of a comment. -/
def afterComment? : List Char → Option (List Char)
  | '*' :: '/' :: rest => some rest
  | _ :: rest => afterComment? rest
  | [] => none

/-- The text after spaces and comments. -/
def skipLayout : Nat → List Char → List Char
  | 0, text => text
  | fuel + 1, text =>
      match text.dropWhile isSpace with
      | '/' :: '/' :: rest => skipLayout fuel (rest.dropWhile fun c => !isLineEnd c)
      | '/' :: '*' :: rest =>
          match afterComment? rest with
          | some rest => skipLayout fuel rest
          | none => '/' :: '*' :: rest
      | rest => rest

/-- The text after all that may stand between tokens. -/
def skip (text : List Char) : List Char := skipLayout (text.length + 1) text

/-! ### Strings and keys -/

/-- The character of a code unit in hexadecimal, or of two that are surrogates of each other. -/
def codeUnits? (text : List Char) : Option (Char × List Char) := do
  if text.length < 4 then none
  let first ← Text.hexValue? (text.take 4)
  if 0xd800 ≤ first ∧ first < 0xdc00 then
    match text.drop 4 with
    | '\\' :: 'u' :: rest => do
        if rest.length < 4 then none
        let second ← Text.hexValue? (rest.take 4)
        guard (0xdc00 ≤ second ∧ second < 0xe000)
        return (← Text.ofCodePoint? (0x10000 + (first - 0xd800) * 0x400 + (second - 0xdc00)),
          rest.drop 4)
    | _ => none
  else return (← Text.ofCodePoint? first, text.drop 4)

/-- What an escape stands for, and the text after it. -/
def escape? (text : List Char) : Option (List Char × List Char) :=
  match text with
  | '\r' :: '\n' :: rest => some ([], rest)
  | 'x' :: rest => (Text.takeCodePoint? 2 rest).map fun (c, rest) => ([c], rest)
  | 'u' :: rest => (codeUnits? rest).map fun (c, rest) => ([c], rest)
  | '0' :: rest => some (['\x00'], rest)
  | 'b' :: rest => some (['\x08'], rest)
  | 'f' :: rest => some (['\x0c'], rest)
  | 'n' :: rest => some (['\n'], rest)
  | 'r' :: rest => some (['\r'], rest)
  | 't' :: rest => some (['\t'], rest)
  | 'v' :: rest => some (['\x0b'], rest)
  | c :: rest => if isLineEnd c then some ([], rest) else if c.isDigit then none else some ([c], rest)
  | [] => none

/-- The rest of a string that a quote ends. -/
def stringRest? (quote : Char) : Nat → List Char → List Char → Option (String × List Char)
  | 0, _, _ => none
  | fuel + 1, read, text =>
      match text with
      | [] => none
      | c :: rest =>
          if c = quote then some (String.ofList read.reverse, rest)
          else if c = '\\' then do
            let (shown, rest) ← escape? rest
            stringRest? quote fuel (shown.reverse ++ read) rest
          else if isLineEnd c then none
          else stringRest? quote fuel (c :: read) rest

/-- A string at the front of a text. -/
def string? (text : List Char) : Option (String × List Char) :=
  match text with
  | '"' :: rest => stringRest? '"' (rest.length + 1) [] rest
  | '\x27' :: rest => stringRest? '\x27' (rest.length + 1) [] rest
  | _ => none

/-- Whether a character may start a name. -/
def startsName (c : Char) : Bool := c = '$' || c = '_' || Text.isLetter c

/-- The rest of a name. -/
def nameRest? : Nat → List Char → List Char → Option (String × List Char)
  | 0, _, _ => none
  | fuel + 1, read, text =>
      match text with
      | '\\' :: 'u' :: rest => do
          let (c, rest) ← codeUnits? rest
          nameRest? fuel (c :: read) rest
      | c :: rest =>
          if startsName c || (!read.isEmpty && Text.isNameMark c) then nameRest? fuel (c :: read) rest
          else if read.isEmpty then none
          else some (String.ofList read.reverse, text)
      | [] => if read.isEmpty then none else some (String.ofList read.reverse, [])

/-- A key at the front of a text: a string or a name. -/
def key? (text : List Char) : Option (String × List Char) :=
  string? text <|> nameRest? (text.length + 1) [] text

/-! ### Numbers -/

/-- A hexadecimal number of 32 bits. -/
def hexadecimal? (digits : List Char) : Option Setting := do
  guard (!digits.isEmpty)
  let value ← Text.hexValue? digits
  guard (value < 2 ^ 32)
  return .integer value

/-- A decimal integer of 64 bits. -/
def integer? (negative : Bool) (digits : List Char) : Option Setting :=
  let value := Text.digitsValue 0 digits
  Setting.ofInt? (if negative then -(value : Int) else value)

/-- A number with a point or an exponent, which must not be too large for binary64. -/
def real? (negative : Bool) (text : List Char) : Option Setting := do
  let whole := text.takeWhile Char.isDigit
  guard (whole.length ≤ 1 || whole.head? != some '0')
  let value ← Binary64.unsigned? negative text
  if value.isFinite then return .real value else none

/-- The number of a word. -/
def number? (word : List Char) : Option Setting :=
  let (negative, digits) := Text.takeSign word
  if digits = ['N', 'a', 'N'] then if word.head? = some '+' then none else some (.real .nan)
  else if digits = "Infinity".toList then
    if word.head? = some '+' then none else some (.real (.infinite negative))
  else match word with
    | '0' :: 'x' :: digits => hexadecimal? digits
    | '0' :: 'X' :: digits => hexadecimal? digits
    | _ =>
        if Text.isDigits digits then
          if digits.length = 1 || digits.head? != some '0' then integer? negative digits else none
        else if (digits.takeWhile fun c => c.isDigit || c = '.').isEmpty then none
        else real? negative digits

/-! ### Values -/

/-- The value of a word. -/
def word? (word : List Char) : Option Setting :=
  if word = ['n', 'u', 'l', 'l'] then some .nothing
  else if word = ['t', 'r', 'u', 'e'] then some (.boolean true)
  else if word = ['f', 'a', 'l', 's', 'e'] then some (.boolean false)
  else number? word

/-- Whether a character may stand in a word. -/
def isWordChar (c : Char) : Bool := c.isAlphanum || c = '+' || c = '-' || c = '.'

mutual

/-- A value at the front of a text. -/
def value? : Nat → List Char → Option (Setting × List Char)
  | 0, _ => none
  | fuel + 1, text =>
      match text with
      | '"' :: _ | '\x27' :: _ => (string? text).map fun (value, rest) => (.text value, rest)
      | '[' :: rest => items? fuel [] (skip rest)
      | '\x7b' :: rest => members? fuel [] (skip rest)
      | _ => do
          let (word, rest) := text.span isWordChar
          return (← word? word, rest)

/-- The rest of a list. -/
def items? : Nat → List Setting → List Char → Option (Setting × List Char)
  | 0, _, _ => none
  | fuel + 1, found, text =>
      match text with
      | ']' :: rest => some (.list found.reverse, rest)
      | _ => do
          let (item, rest) ← value? fuel text
          match skip rest with
          | ',' :: rest => items? fuel (item :: found) (skip rest)
          | ']' :: rest => some (.list (item :: found).reverse, rest)
          | _ => none

/-- The rest of a table; the last of equal keys counts. -/
def members? : Nat → List (String × Setting) → List Char → Option (Setting × List Char)
  | 0, _, _ => none
  | fuel + 1, found, text =>
      match text with
      | '\x7d' :: rest => some (.table found, rest)
      | _ => do
          let (key, rest) ← key? text
          let ':' :: rest := skip rest | none
          let (value, rest) ← value? fuel (skip rest)
          let found := Json.put found key value
          match skip rest with
          | ',' :: rest => members? fuel found (skip rest)
          | '\x7d' :: rest => some (.table found, rest)
          | _ => none

end

/-- Reads a document. -/
def ofText? (text : String) : Option Setting := do
  let (value, rest) ← value? (text.length + 1) (skip text.toList)
  if (skip rest).isEmpty then some value else none

end Audience.Json5
