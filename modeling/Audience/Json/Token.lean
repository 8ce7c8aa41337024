import Audience.Json.Number
import Audience.Text.CodePoint

/-!
# Tokens of a JSON text

* **`Json.Token`**: marks, words, numbers and strings. A number or string that is well formed but
  denotes nothing (a number past binary64, a lone surrogate) is a token without a value.
* **`Json.Lexer`**: the state between two characters, and its step.
* **`Json.tokens?`**: the tokens of a text, if it is made of tokens.
-/

namespace Audience.Json

/-- A token of a JSON text. -/
inductive Token
  | arrayOpen
  | arrayClose
  | objectOpen
  | objectClose
  | comma
  | colon
  | null
  | bool (value : Bool)
  | number (value : Option Number)
  | string (value : Option String)

/-- A character of a string, or a UTF-16 code unit given by an escape. -/
inductive Piece
  | char (value : Char)
  | codeUnit (value : Nat)

namespace Piece

/-- The text of the pieces of a string; a surrogate needs its partner beside it. -/
def text? : List Piece → Option (List Char)
  | [] => some []
  | .char c :: rest => (text? rest).map (c :: ·)
  | .codeUnit high :: .codeUnit low :: rest =>
      if 0xd800 ≤ high && high < 0xdc00 then
        if 0xdc00 ≤ low && low < 0xe000 then
          (text? rest).map (Char.ofNat (0x10000 + (high - 0xd800) * 0x400 + (low - 0xdc00)) :: ·)
        else none
      else if 0xdc00 ≤ high && high < 0xe000 then none
      else (text? (.codeUnit low :: rest)).map (Char.ofNat high :: ·)
  | .codeUnit code :: rest =>
      if 0xd800 ≤ code && code < 0xe000 then none else (text? rest).map (Char.ofNat code :: ·)

end Piece

/-- What the characters read last belong to. The pieces of a string and the characters of a word are
kept last first. -/
inductive Lexer.Mode
  | between
  | word (chars : List Char)
  | string (pieces : List Piece)
  | escape (pieces : List Piece)
  | hexadecimal (pieces : List Piece) (value : Nat) (missing : Nat)

/-- The state between two characters: the tokens so far, last first. -/
structure Lexer where
  mode : Lexer.Mode
  found : List Token

namespace Lexer

/-- The digits at the front of a text, and the rest. -/
def digits (text : List Char) : List Char × List Char := text.span Char.isDigit

/-- Whether a minus sign is at the front of a text, and the rest. -/
def minus (text : List Char) : Bool × List Char :=
  match text with
  | '-' :: rest => (true, rest)
  | _ => (false, text)

/-- The places behind a point at the front of a text, and the rest. -/
def fraction? (text : List Char) : Option (Option (List Char) × List Char) :=
  match text with
  | '.' :: rest =>
      let (places, rest) := digits rest
      if places.isEmpty then none else some (some places, rest)
  | _ => some (none, text)

/-- The exponent at the front of a text, and the rest. -/
def exponent? (text : List Char) : Option (Option (Bool × List Char) × List Char) :=
  match text with
  | c :: rest =>
      if c = 'e' || c = 'E' then
        let (down, rest) := match rest with
          | '+' :: rest => (false, rest)
          | _ => minus rest
        let (places, rest) := digits rest
        if places.isEmpty then none else some (some (down, places), rest)
      else some (none, text)
  | [] => some (none, text)

/-- The spelling of a number, if the text is one. -/
def numberSpelling? (text : List Char) : Option Number.Spelling := do
  let (negative, text) := minus text
  let (whole, text) := digits text
  guard (whole = ['0'] || (!whole.isEmpty && whole.head? != some '0'))
  let (fraction, text) ← fraction? text
  let (exponent, text) ← exponent? text
  guard text.isEmpty
  return ⟨negative, whole, fraction, exponent⟩

/-- The token of a word: a literal name or a number. -/
def wordToken? (word : List Char) : Option Token :=
  if word = ['n', 'u', 'l', 'l'] then some .null
  else if word = ['t', 'r', 'u', 'e'] then some (.bool true)
  else if word = ['f', 'a', 'l', 's', 'e'] then some (.bool false)
  else (numberSpelling? word).map fun spelling => .number (Number.ofSpelling? spelling)

/-- The token of a mark. -/
def markToken? (c : Char) : Option Token :=
  match c with
  | '[' => some .arrayOpen
  | ']' => some .arrayClose
  | '\x7b' => some .objectOpen
  | '\x7d' => some .objectClose
  | ',' => some .comma
  | ':' => some .colon
  | _ => none

/-- Whether a character may stand in a word. -/
def isWordChar (c : Char) : Bool := c.isAlphanum || c = '-' || c = '+' || c = '.'

/-- The character of a one-letter escape. -/
def escaped? (c : Char) : Option Char :=
  match c with
  | '"' => some '"'
  | '\\' => some '\\'
  | '/' => some '/'
  | 'b' => some '\x08'
  | 'f' => some '\x0c'
  | 'n' => some '\n'
  | 'r' => some '\r'
  | 't' => some '\t'
  | _ => none

/-- A character between tokens. -/
def start? (found : List Token) (c : Char) : Option Lexer :=
  if c = ' ' || c = '\n' || c = '\t' || c = '\r' then some ⟨.between, found⟩
  else if c = '"' then some ⟨.string [], found⟩
  else if isWordChar c then some ⟨.word [c], found⟩
  else (markToken? c).map fun token => ⟨.between, token :: found⟩

/-- The step on one character. -/
def step? (state : Lexer) (c : Char) : Option Lexer :=
  match state.mode with
  | .between => start? state.found c
  | .word chars =>
      if isWordChar c then some { state with mode := .word (c :: chars) }
      else do start? ((← wordToken? chars.reverse) :: state.found) c
  | .string pieces =>
      if c = '"' then
        some ⟨.between, .string ((Piece.text? pieces.reverse).map String.ofList) :: state.found⟩
      else if c = '\\' then some { state with mode := .escape pieces }
      else if c.toNat < 0x20 then none
      else some { state with mode := .string (.char c :: pieces) }
  | .escape pieces =>
      if c = 'u' then some { state with mode := .hexadecimal pieces 0 3 }
      else (escaped? c).map fun shown => { state with mode := .string (.char shown :: pieces) }
  | .hexadecimal pieces value missing => do
      let next := 16 * value + (← Text.hexDigit? c)
      match missing with
      | 0 => some { state with mode := .string (.codeUnit next :: pieces) }
      | left + 1 => some { state with mode := .hexadecimal pieces next left }

/-- The tokens found when the text ends here. -/
def finish? (state : Lexer) : Option (List Token) :=
  match state.mode with
  | .between => some state.found.reverse
  | .word chars => do some ((← wordToken? chars.reverse) :: state.found).reverse
  | _ => none

end Lexer

/-- The tokens of a text. -/
def tokens? (text : List Char) : Option (List Token) := do
  let state ← text.foldlM Lexer.step? ⟨.between, []⟩
  state.finish?

end Audience.Json
