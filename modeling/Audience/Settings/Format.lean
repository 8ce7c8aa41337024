import Audience.Settings.Ini
import Audience.Settings.Json
import Audience.Settings.Json5
import Audience.Settings.Ron
import Audience.Settings.Toml.Document
import Audience.Settings.Yaml.Document
import Audience.Text.Segments

/-!
# Formats of settings files

* **`Settings.Format`**: the formats; **`Settings.Format.extensions`** are the endings of file names
  that stand for them.
* **`Settings.Format.read?`**: the table that a text in a format gives.
* **`Settings.Format.ofFileName?`**, **`Settings.Format.fileNames`**: the format that a file has by its
  name, and the names of files that a name without an ending may stand for.
-/

namespace Audience.Settings

/-- A format of settings files. -/
inductive Format
  | toml
  | json
  | yaml
  | ini
  | ron
  | json5
  deriving DecidableEq

namespace Format

/-- All formats. -/
def all : List Format := [toml, json, yaml, ini, ron, json5]

/-- The endings of the names of files in a format. -/
def extensions : Format → List String
  | toml => ["toml"]
  | json => ["json"]
  | yaml => ["yaml", "yml"]
  | ini => ["ini"]
  | ron => ["ron"]
  | json5 => ["json5"]

/-- The value of a text. -/
def value? (format : Format) (text : String) : Option Setting :=
  match format with
  | toml => Toml.ofText? text
  | json => (Json.ofText? text).map Setting.ofJson
  | yaml => Yaml.ofText? text
  | ini => Ini.ofText? text
  | ron => Ron.ofText? text
  | json5 => Json5.ofText? text

/-- The text without a byte order mark in front of it. -/
def withoutMark (text : String) : String :=
  match text.toList with
  | '\ufeff' :: rest => String.ofList rest
  | _ => text

/-- The members of the table that a text gives; another value is none. -/
def read? (format : Format) (text : String) : Option (List (String × Setting)) :=
  match format.value? (withoutMark text) with
  | some (.table members) => some members
  | _ => none

/-- The parts of a path up to its last name. -/
def pathParts (file : String) : List String :=
  ((Text.segments '/' file).reverse.dropWhile fun part => part = "" || part = ".").reverse

/-- The ending of the name of a file: what stands behind its last point, if anything stands before
that point. -/
def extension? (file : String) : Option String :=
  match (Text.segments '.' ((pathParts file).getLastD "")).reverse with
  | extension :: first :: others => if first = "" && others.isEmpty then none else some extension
  | _ => none

/-- The format that a file has by its name. -/
def ofFileName? (file : String) : Option Format := do
  let extension ← extension? file
  all.find? fun format => format.extensions.contains extension

/-- The names of files that a name without an ending may stand for, and their formats. -/
def fileNames (file : String) : List (Format × String) :=
  let parts := pathParts file
  if parts.isEmpty || parts.getLast? = some ".." then []
  else
    let name := "/".intercalate parts
    all.flatMap fun format =>
      format.extensions.map fun extension => (format, name ++ "." ++ extension)

example : extension? "a/k.b.toml" = some "toml" ∧ extension? "k.d/.toml" = none := by decide

end Format

end Audience.Settings
