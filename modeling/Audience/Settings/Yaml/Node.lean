import Audience.Settings.Value
import Audience.Settings.Yaml.Token

/-!
# Nodes of YAML documents

* **`Yaml.Node`**: a value of a document.
* **`Yaml.Node.ofWord`**: what a plain scalar stands for, with or without a tag.
* **`Yaml.Node.table?`**: the table of keys and values in turn. No table has the same key twice.
* **`Yaml.Node.setting?`**: the setting of a node. Keys are texts and integers; infinities and NaN have
  no setting.
-/

namespace Audience.Yaml

/-- A value of a document. -/
inductive Node
  | nothing
  /-- A word that does not fit its tag, or an alias inside its own node. -/
  | unfit
  /-- A name of an infinity or of NaN. -/
  | limit
  | text (value : String)
  | integer (value : Int)
  | real (value : Binary64)
  | boolean (value : Bool)
  | list (items : List Node)
  | table (members : List (Node × Node))

namespace Node

instance : Inhabited Node := ⟨.nothing⟩

/-! ### Words -/

/-- An integer in digits of a base, with an optional sign. -/
def inBase? (base : Nat) (text : List Char) : Option Int := do
  let (negative, digits) := Text.takeSign text
  guard (!digits.isEmpty)
  let value ← digits.foldlM (fun value c => do
    let digit ← Text.hexDigit? c
    if digit < base then some (base * value + digit) else none) 0
  return if negative then -(value : Int) else value

/-- An integer of 64 bits. -/
def fitting? (value : Int) : Option Node :=
  if Binary64.leastWord ≤ value && value ≤ Binary64.largestWord then some (.integer value) else none

/-- A decimal integer. -/
def decimal? (word : List Char) : Option Node := (Text.integer? word).bind fitting?

/-- An integer in one of its spellings. -/
def integer? (word : List Char) : Option Node :=
  let marked := match word with
    | '0' :: 'x' :: digits => (inBase? 16 digits).bind fitting?
    | '0' :: 'o' :: digits => (inBase? 8 digits).bind fitting?
    | '+' :: digits => decimal? digits
    | _ => none
  marked <|> decimal? word

/-- The names of infinities and of NaN. -/
def limits : List String :=
  [".inf", ".Inf", ".INF", "+.inf", "+.Inf", "+.INF", "-.inf", "-.Inf", "-.INF", ".nan", ".NaN",
    ".NAN"]

/-- A number with a point or an exponent; it has a digit. -/
def real? (word : String) : Option Node :=
  if limits.contains word then some .limit
  else if word.toList.any Char.isDigit then (Binary64.ofChars? word.toList).map .real
  else none

/-- A truth value. -/
def boolean? (word : String) : Option Node :=
  if word = "true" then some (.boolean true)
  else if word = "false" then some (.boolean false)
  else none

/-- The nothing. -/
def nothing? (word : String) : Option Node :=
  if word = "~" || word = "null" then some .nothing else none

/-- What a tag says of a plain word. -/
inductive Kind
  | boolean
  | integer
  | real
  | nothing
  | text
  deriving DecidableEq

/-- The kinds of the core tags; all other tags mean texts. -/
def Kind.ofCore (name : String) : Kind :=
  if name = "bool" then .boolean
  else if name = "int" then .integer
  else if name = "float" then .real
  else if name = "null" then .nothing
  else .text

/-- What a plain word stands for. -/
def ofWord (kind : Option Kind) (word : String) : Node :=
  match kind with
  | some .boolean => (boolean? word).getD .unfit
  | some .integer => (decimal? word.toList).getD .unfit
  | some .real => (real? word).getD .unfit
  | some .nothing => (nothing? word).getD .unfit
  | some .text => .text word
  | none =>
      (nothing? word <|> boolean? word <|> integer? word.toList <|> real? word).getD (.text word)

/-! ### Tables -/

/-- Whether two keys are the same. -/
def isSameKey : Node → Node → Bool
  | .text a, .text b => a = b
  | .integer a, .integer b => a = b
  | .boolean a, .boolean b => a = b
  | .nothing, .nothing => true
  | _, _ => false

/-- The members of a table from keys and values in turn, after those that are `found`. Where a key is
due, an unfit node is passed over. -/
def members? (found : List (Node × Node)) : Option Node → List Node → Option (List (Node × Node))
  | _, [] => some found
  | none, .unfit :: rest => members? found none rest
  | none, node :: rest => members? found (some node) rest
  | some key, value :: rest =>
      if found.any fun member => isSameKey member.1 key then none
      else members? (found ++ [(key, value)]) none rest

/-- The table of keys and values in turn. -/
def table? (nodes : List Node) : Option Node := (members? [] none nodes).map .table

/-! ### Settings -/

/-- The key that a node stands for. -/
def key? : Node → Option String
  | .text value => some value
  | .integer value => some (toString value)
  | _ => none

mutual

/-- The setting of a node. -/
def setting? : Node → Option Setting
  | .nothing => some .nothing
  | .unfit => some .nothing
  | .limit => none
  | .text value => some (.text value)
  | .integer value => some (.integer value)
  | .real value => some (.real value)
  | .boolean value => some (.boolean value)
  | .list items => (itemSettings? items).map .list
  | .table members => (memberSettings? members).map fun found => .table (Json.ordered found)

/-- The settings of items. -/
def itemSettings? : List Node → Option (List Setting)
  | [] => some []
  | item :: rest => do return (← setting? item) :: (← itemSettings? rest)

/-- The settings of members. -/
def memberSettings? : List (Node × Node) → Option (List (String × Setting))
  | [] => some []
  | (key, value) :: rest => do
      return (← key.key?, ← setting? value) :: (← memberSettings? rest)

end

end Node

end Audience.Yaml
