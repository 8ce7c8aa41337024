import Audience.CommandLine
import Std.Time.DateTime.Timestamp

/-!
# The program

Runs the command line on the files, the environment and the clock of the machine.
-/

namespace Audience

/-- The variables of the environment that the program looks at. -/
def variableNames : List String :=
  [CommandLine.settingsVariable, CommandLine.depthVariable, "SEGMENTER__PARSER__MAX_NODES",
    "SEGMENTER__LOG__FILTER", "SEGMENTER__LOG__JSON", "SEGMENTER__PARSER", "SEGMENTER__LOG"]

/-- The variables of the environment that are set. -/
def environment : IO (List (String × String)) :=
  variableNames.filterMapM fun name => do return (← IO.getEnv name).map fun value => (name, value)

/-- The text of a file, if it can be read. -/
def textOfFile (file : String) : IO (Option String) :=
  try
    return some (← IO.FS.readFile file)
  catch _ =>
    return none

/-- The instant that the clock shows. -/
def clock : IO Instant := do
  let now ← Std.Time.Timestamp.now
  return (Instant.ofMillis? now.toMillisecondsSinceUnixEpoch.val).getD .epoch

end Audience

/-- Runs the program. -/
def main (arguments : List String) : IO UInt32 := do
  let report ← Audience.CommandLine.run Audience.textOfFile (← Audience.environment) (← Audience.clock)
    arguments
  for line in report.lines do
    IO.println line
  if let some fault := report.fault then
    IO.eprintln ("Error: " ++ fault)
  if report.exitCode = 2 then
    IO.eprintln "error: the arguments make no sense; try --help"
  return report.exitCode.toUInt32
