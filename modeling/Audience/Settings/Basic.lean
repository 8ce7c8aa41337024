import Audience.Place
import Audience.Settings.Format
import Audience.Settings.Path

/-!
# Settings

* **`Settings`** and **`Settings.standard`**: the limits on criteria and how to log.
* **`Settings.ofSetting?`**: reads them from a table. What is missing keeps its standard value, and
  what has no place here is passed over.
* **`Settings.load?`**: reads a document in one of the formats, if there is one, and then the variables
  of the environment whose names start with `SEGMENTER__`; in such a name `__` leads into a table.
-/

namespace Audience

/-- The limits on criteria and how to log. -/
structure Settings where
  limits : Limits
  logFilter : String
  logJson : Bool
  deriving DecidableEq

namespace Settings

/-- The settings where none are given. -/
def standard : Settings :=
  ⟨.standard, "segmenter=info,segmenter_segmentation=info", false⟩

instance : Inhabited Settings := ⟨standard⟩

/-! ### Records -/

/-- The fields of a record given by names in a table or by order in a list. -/
def fields? (names : List String) : Setting → Option (List (Option Setting))
  | .table members => some (names.map (Json.find? members))
  | .list items => some (names.zipIdx.map fun entry => items[entry.2]?)
  | _ => none

/-- A field that has a value of its own when it is missing. -/
def fieldOr {α : Type} (missing : α) (read? : Setting → Option α) : Option Setting → Option α
  | none => some missing
  | some setting => read? setting

/-- Reads the limits. -/
def limits? (setting : Setting) : Option Limits := do
  match ← fields? ["max_depth", "max_nodes"] setting with
  | [depth, nodes] =>
      return ⟨← fieldOr Limits.standard.maxDepth Setting.natural? depth,
        ← fieldOr Limits.standard.maxNodes Setting.natural? nodes⟩
  | _ => none

/-- Reads how to log. -/
def log? (setting : Setting) : Option (String × Bool) := do
  match ← fields? ["filter", "json"] setting with
  | [filter, json] =>
      return (← fieldOr standard.logFilter Setting.words? filter,
        ← fieldOr standard.logJson Setting.truth? json)
  | _ => none

/-- Reads settings from a table. -/
def ofSetting? (setting : Setting) : Option Settings := do
  let limits ← fieldOr .standard limits? (setting.member? "parser")
  let (logFilter, logJson) ←
    fieldOr (standard.logFilter, standard.logJson) log? (setting.member? "log")
  return { limits, logFilter, logJson }

/-! ### Variables of the environment -/

/-- The value of a variable of the environment: a truth value, a number or a text. -/
def variableValue (value : String) : Setting :=
  let word := Text.lowerAscii value
  if word = "true" then .boolean true
  else if word = "false" then .boolean false
  else
    let number := do Setting.ofInt? (← Text.integer? value.toList)
    let real := (Binary64.ofChars? value.toList).map Setting.real
    (number <|> real).getD (.text value)

/-- What the names of the variables start with. -/
def variableMark : List Char := "segmenter__".toList

/-- A name with points for double underscores. -/
def dotted : List Char → List Char
  | '_' :: '_' :: rest => '.' :: dotted rest
  | c :: rest => c :: dotted rest
  | [] => []

/-- The key that a variable sets, if it sets one. -/
def variableKey? (name : String) : Option String :=
  let name := (Text.lowerAscii name).toList
  if variableMark.isPrefixOf name then some (String.ofList (dotted (name.drop variableMark.length)))
  else none

/-- What the variables of the environment set. -/
def assignments (environment : List (String × String)) : List (String × Setting) :=
  environment.filterMap fun (name, value) =>
    (variableKey? name).map fun key => (key, variableValue value)

/-! ### Loading -/

/-- The settings of a document, changed by the variables of the environment. -/
def load? (document : Option (Format × String)) (environment : List (String × String)) :
    Option Settings := do
  let given ← match document with
    | some (format, text) => format.read? text
    | none => some []
  let root := (given ++ assignments environment).foldl
    (fun root (key, value) => root.put (Setting.path key) value) (.table [])
  ofSetting? root

end Settings

end Audience
