import Audience.Criterion.Document
import Audience.Settings.Basic
import Audience.Subject.Document
import Audience.Verdict

/-!
# The command line

The program reads a criteria document and subject files and says of each subject whether it matches.

* **`CommandLine.Options`** and **`CommandLine.parse`**: what the arguments ask for, or that they ask
  for help, for the version, or for nothing that can be done.
* **`CommandLine.Report`** and **`CommandLine.run`**: what is printed, and the exit code. Files are
  read through a function, so that a run is a matter of arguments, environment, files and clock.
-/

namespace Audience.CommandLine

/-! ### Arguments -/

/-- What the arguments give, each option apart from the subjects at most once. -/
structure Given where
  criteria : Option String
  subjects : List String
  now : Option Instant
  maxDepth : Option Nat
  settings : Option String

/-- Nothing given. -/
def Given.nothing : Given := ⟨none, [], none, none, none⟩

/-- What a run is to do. -/
structure Options where
  criteria : String
  subjects : List String
  now : Option Instant
  maxDepth : Option Nat
  settings : Option String

/-- Why arguments ask for no run. -/
inductive Stop
  | help
  | version
  | misuse
  deriving DecidableEq

/-- The variable that gives the depth limit where no argument does. -/
def depthVariable : String := "SEGMENTER__PARSER__MAX_DEPTH"

/-- The variable that gives the settings file where no argument does. -/
def settingsVariable : String := "SEGMENTER_CONFIG"

/-- Sets what is not set yet. -/
def once {α : Type} (old : Option α) (new : Option α) : Except Stop (Option α) :=
  match old, new with
  | none, some value => .ok (some value)
  | _, _ => .error .misuse

/-- The name of a file. -/
def fileName? (text : String) : Option String := if text.isEmpty then none else some text

/-- A depth limit. -/
def depth? (text : String) : Option Nat := (Text.natural? text.toList).bind Setting.fitting?

/-- The names of the options that take a value. -/
def valued : List String := ["criteria", "subject", "now", "max-depth", "config"]

/-- Sets the option of a name. -/
def Given.set (given : Given) (name value : String) : Except Stop Given :=
  if name = "criteria" then
    do return { given with criteria := ← once given.criteria (fileName? value) }
  else if name = "subject" then
    match fileName? value with
    | some file => .ok { given with subjects := given.subjects ++ [file] }
    | none => .error .misuse
  else if name = "now" then
    do return { given with now := ← once given.now (Timestamp.lenient? value.toList) }
  else if name = "max-depth" then
    do return { given with maxDepth := ← once given.maxDepth (depth? value) }
  else if name = "config" then
    do return { given with settings := ← once given.settings (fileName? value) }
  else .error .misuse

/-- Whether an argument can only be an option. -/
def isOption (argument : String) : Bool :=
  match argument.toList with
  | '-' :: _ :: _ => true
  | _ => false

/-- The name of a long option, and the value behind an equals sign. -/
def longOption (text : List Char) : String × Option String :=
  let (name, rest) := text.span (· != '=')
  (String.ofList name, match rest with
    | _ :: value => some (String.ofList value)
    | [] => none)

/-- Why a short option stops the reading. -/
def shortStop (option : Char) : Stop :=
  if option = 'h' then .help else if option = 'V' then .version else .misuse

/-- Reads arguments from the first to the last. -/
def collect (given : Given) : List String → Except Stop Given
  | [] => .ok given
  | argument :: rest =>
      match argument.toList with
      | ['-', '-'] => if rest.isEmpty then .ok given else .error .misuse
      | '-' :: '-' :: text =>
          match longOption text with
          | ("help", none) => .error .help
          | ("version", none) => .error .version
          | (name, some value) => do collect (← given.set name value) rest
          | (name, none) =>
              match rest with
              | value :: rest =>
                  if isOption value || !valued.contains name then .error .misuse
                  else do collect (← given.set name value) rest
              | [] => .error .misuse
      | '-' :: option :: _ => .error (shortStop option)
      | _ => .error .misuse

/-- What the arguments give or else a variable of the environment. -/
def orVariable {α : Type} (value : Option α) (environment : List (String × String)) (name : String)
    (read? : String → Option α) : Except Stop (Option α) :=
  match value, Json.find? environment name with
  | some value, _ => .ok (some value)
  | none, some text =>
      match read? text with
      | some value => .ok (some value)
      | none => .error .misuse
  | none, none => .ok none

/-- What the arguments and the environment ask for. -/
def parse (environment : List (String × String)) (arguments : List String) :
    Except Stop Options := do
  let given ← collect .nothing arguments
  let maxDepth ← orVariable given.maxDepth environment depthVariable depth?
  let settings ← orVariable given.settings environment settingsVariable fileName?
  match given.criteria, given.subjects with
  | some criteria, first :: others =>
      return ⟨criteria, first :: others, given.now, maxDepth, settings⟩
  | _, _ => .error .misuse

/-! ### Help -/

/-- The name and version. -/
def versionLine : String := "segmenter 0.1.0"

/-- The column of the descriptions of options. -/
def helpColumn : Nat := 31

/-- Blanks up to a width. -/
def blanks (width : Nat) : List Char := List.replicate width ' '

/-- An option and its description; further lines of this start in its column. -/
def helpEntry (option description : String) : String :=
  let shown := description.toList.flatMap fun c => if c = '\n' then c :: blanks helpColumn else [c]
  String.ofList (option.toList ++ blanks (helpColumn - option.length) ++ shown)

/-- The note that a variable can give the value of an option, and what it is set to. -/
def variableNote (environment : List (String × String)) (name : String) : String :=
  "[env: " ++ name ++ "=" ++ (Json.find? environment name).getD "" ++ "]"

/-- The lines of the help text. -/
def helpLines (environment : List (String × String)) : List String :=
  ["Evaluate audience segmentation criteria against subject data",
    "",
    "Usage: segmenter [OPTIONS] --criteria <CRITERIA> --subject <SUBJECTS>",
    "",
    "Options:",
    helpEntry "      --criteria <CRITERIA>" "JSON criteria document",
    helpEntry "      --subject <SUBJECTS>" "JSON subject file (repeatable)",
    helpEntry "      --now <NOW>" "Evaluation instant, RFC 3339 (defaults to now)",
    helpEntry "      --max-depth <MAX_DEPTH>"
      ("Maximum criteria nesting depth (overrides config) " ++
        variableNote environment depthVariable),
    helpEntry "      --config <CONFIG>"
      ("TOML configuration file " ++ variableNote environment settingsVariable),
    helpEntry "  -h, --help" "Print help",
    helpEntry "  -V, --version" "Print version"]

/-! ### Runs -/

/-- What a run prints, and its exit code. -/
structure Report where
  exitCode : Nat
  /-- The lines of standard output. -/
  lines : List String
  /-- What is said on standard error. -/
  fault : Option String
  deriving DecidableEq

/-- The report of arguments that ask for no run. -/
def Stop.report (environment : List (String × String)) : Stop → Report
  | .help => ⟨0, helpLines environment, none⟩
  | .version => ⟨0, [versionLine], none⟩
  | .misuse => ⟨2, [], none⟩

/-- The line about a subject. -/
def verdictLine (file : String) (isMatch : Bool) : String :=
  file ++ "\t" ++ (if isMatch then "match" else "no match")

section

variable {m : Type → Type} [Monad m] (textOfFile : String → m (Option String))

/-- The first of some files that there is, in its format. -/
def firstFile : List (Settings.Format × String) → m (Option (Settings.Format × String))
  | [] => return none
  | (format, file) :: rest => do
      match ← textOfFile file with
      | some text => return some (format, text)
      | none => firstFile rest

/-- The settings document of a name: the file of this name, if its ending tells the format; where
there is no such file, one whose name has an ending more. -/
def settingsDocument (file : String) : m (Option (Settings.Format × String)) := do
  match ← textOfFile file with
  | some text => return (Settings.Format.ofFileName? file).map fun format => (format, text)
  | none => firstFile textOfFile (Settings.Format.fileNames file)

/-- The settings in force; the standard ones where loading fails. -/
def settingsInForce (environment : List (String × String)) (file : Option String) : m Settings := do
  match file with
  | none => return (Settings.load? none environment).getD .standard
  | some file =>
      match ← settingsDocument textOfFile file with
      | some document => return (Settings.load? (some document) environment).getD .standard
      | none => return .standard

/-- Evaluates the subjects one after the other, up to the first that cannot be read. -/
def evaluate (criterion : PlacedCriterion) (now : Instant) (lines : List String) :
    List String → m Report
  | [] => return ⟨0, lines, none⟩
  | file :: rest => do
      match ← textOfFile file with
      | none => return ⟨1, lines, some ("failed to read " ++ file)⟩
      | some text =>
          match Subject.ofText? text with
          | none => return ⟨1, lines, some ("invalid subject in " ++ file)⟩
          | some subject =>
              let line := verdictLine file (criterion.isMetBy subject now.millis)
              evaluate criterion now (lines ++ [line]) rest

/-- Runs with options; `clock` is the instant of evaluation where none is given. -/
def runOptions (environment : List (String × String)) (clock : Instant) (options : Options) :
    m Report := do
  let settings ← settingsInForce textOfFile environment options.settings
  let maxDepth := options.maxDepth.getD settings.limits.maxDepth
  let limits : Limits := { settings.limits with maxDepth }
  match ← textOfFile options.criteria with
  | none => return ⟨1, [], some ("failed to read " ++ options.criteria)⟩
  | some text =>
      match Criterion.ofText limits text with
      | .error _ => return ⟨1, [], some ("invalid criteria in " ++ options.criteria)⟩
      | .ok criterion =>
          evaluate textOfFile criterion (options.now.getD clock) [] options.subjects

/-- Runs the program. -/
def run (environment : List (String × String)) (clock : Instant) (arguments : List String) :
    m Report :=
  match parse environment arguments with
  | .error stop => return stop.report environment
  | .ok options => runOptions textOfFile environment clock options

end

end Audience.CommandLine
