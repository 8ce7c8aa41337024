import Audience.Settings.Toml.Layout
import Audience.Settings.Toml.Moment
import Audience.Settings.Value

/-!
# Scalars of TOML documents

* **`Toml.Scalar`** and **`Toml.scalar?`**: the values that are single words: truth values, numbers and
  moments.
* **`Toml.takeWord`**: the word at the front of a text.
-/

namespace Audience.Toml

/-- A value that is neither list nor table. -/
inductive Scalar
  | plain (value : Setting)
  | moment (value : Moment)

/-- The value of a scalar as a setting. -/
def Scalar.setting : Scalar → Setting
  | plain value => value
  | moment value => .text value.text

/-- The digits without underscores, if each of these stands between two digits. -/
def plainDigits? (isDigit : Char → Bool) : List Char → Option (List Char)
  | [] => none
  | [c] => if isDigit c then some [c] else none
  | c :: '_' :: rest => if isDigit c then (plainDigits? isDigit rest).map (c :: ·) else none
  | c :: rest => if isDigit c then (plainDigits? isDigit rest).map (c :: ·) else none

/-- Whether digits have no needless zero in front. -/
def isProper (digits : List Char) : Bool := digits.head? != some '0' || digits.length = 1

/-- An integer in a base given by its mark. -/
def based? (base : Nat) (text : List Char) : Option Setting := do
  let isDigit (c : Char) : Bool := (Text.hexDigit? c).any (· < base)
  let digits ← plainDigits? isDigit text
  Setting.ofInt? (digits.foldl (fun value c => value * base + (Text.hexDigit? c).getD 0) 0 : Nat)

/-- An integer in base ten. -/
def decimalInteger? (text : List Char) : Option Setting := do
  let (negative, rest) := Text.takeSign text
  let digits ← plainDigits? Char.isDigit rest
  guard (isProper digits)
  let value := Text.digitsValue 0 digits
  Setting.ofInt? (if negative then -(value : Int) else value)

/-- The exponent of a real number, underscores left out. -/
def exponent? (text : List Char) : Option (List Char) :=
  match text with
  | [] => some []
  | mark :: shift => do
      let (down, digits) := Text.takeSign shift
      let digits ← plainDigits? Char.isDigit digits
      return mark :: (if down then '-' else '+') :: digits

/-- A real number with a point or an exponent. A positive one must not be too large for binary64; a
negative one may. -/
def decimalReal? (negative : Bool) (text : List Char) : Option Setting := do
  let (mantissa, exponent) := text.span fun c => c ≠ 'e' && c ≠ 'E'
  let (whole, places) := mantissa.span (· != '.')
  let whole ← plainDigits? Char.isDigit whole
  guard (isProper whole)
  let places ← match places with
    | [] => some []
    | _ :: places => plainDigits? Char.isDigit places
  let exponent ← exponent? exponent
  guard (mantissa.contains '.' || !exponent.isEmpty)
  match ← Binary64.unsigned? negative (whole ++ '.' :: places ++ exponent) with
  | .infinite false => none
  | value => some (.real value)

/-- A real number. -/
def real? (text : List Char) : Option Setting :=
  let (negative, rest) := Text.takeSign text
  if rest = ['i', 'n', 'f'] then some (.real (.infinite negative))
  else if rest = ['n', 'a', 'n'] then some (.real .nan)
  else decimalReal? negative rest

/-- A truth value or a number. -/
def plain? (word : List Char) : Option Setting :=
  match word with
  | ['t', 'r', 'u', 'e'] => some (.boolean true)
  | ['f', 'a', 'l', 's', 'e'] => some (.boolean false)
  | '0' :: 'x' :: digits => based? 16 digits
  | '0' :: 'o' :: digits => based? 8 digits
  | '0' :: 'b' :: digits => based? 2 digits
  | _ => decimalInteger? word <|> real? word

/-- The value of a word. -/
def scalar? (word : List Char) : Option Scalar :=
  (plain? word).map Scalar.plain <|> (Moment.ofChars? false word).map Scalar.moment

/-- The word at the front of a text; a date takes in a time of day after one space. -/
def takeWord (text : List Char) : List Char × List Char :=
  let isWordChar (c : Char) : Bool := isBareChar c || c = '+' || c = '.' || c = ':'
  let (word, rest) := text.span isWordChar
  match rest with
  | ' ' :: c :: more =>
      if word.length = 10 && (Moment.date? word).isSome && c.isDigit then
        let (time, rest) := (c :: more).span isWordChar
        (word ++ ' ' :: time, rest)
      else (word, rest)
  | _ => (word, rest)

end Audience.Toml
