import TilingConfig.Log
import TilingConfig.Snapshot.Error

/-!
# Outcomes

What a run leaves behind: its output, its exit code, the reports of the work, and
the failure that ended it, told with its causes.
-/

namespace TilingConfig.CommandLine

open TilingConfig.Files TilingConfig.Log

/-- What ended a run: what was tried, and why it could not be done, nearest cause first. -/
structure Failure where
  /-- What was tried. -/
  attempt : String
  /-- Why it could not be done. -/
  causes : List String

namespace Failure

/-- The failure to load a file. -/
def ofLoading (path : Path) (e : ConfigError) : Failure :=
  ⟨"loading " ++ path.text, e.message :: e.causes⟩

/-- A text with something in front of its first line, and something else in front of the others. -/
def indented (first others text : String) : String :=
  first ++ ("\n" ++ others).intercalate (text.splitOn "\n") ++ "\n"

/-- A numbered cause. -/
def numberedCause (cause : String) (index : Nat) : String :=
  let number := toString index
  let space := String.ofList (List.replicate (5 - number.length) ' ')
  indented (space ++ number ++ ": ") "       " cause

/-- The causes in order. They are numbered when there are several. -/
def causeText : List String → String
  | [] => ""
  | [cause] => "\nCaused by:\n" ++ indented "    " "    " cause
  | causes =>
    "\nCaused by:\n" ++
      String.join (causes.zipIdx.map fun (cause, index) => numberedCause cause index)

/-- A failure as it is told. -/
def message (failure : Failure) : String :=
  "Error: " ++ failure.attempt ++ "\n" ++ causeText failure.causes

end Failure

/-- What a run leaves behind. -/
structure Outcome where
  /-- The exit code. -/
  code : Nat
  /-- The output. -/
  output : String
  /-- The reports of the work. -/
  journal : Journal
  /-- What ended the run, if it did not succeed. -/
  failure : Option Failure

namespace Outcome

/-- A run that printed something and succeeded. -/
def printed (output : String) (journal : Journal) : Outcome := ⟨0, output, journal, none⟩

/-- A run that a place outside the layout list has ended. -/
def aborted (journal : Journal) : Outcome := ⟨101, "", journal, none⟩

/-- A run that could not load a file. -/
def notLoaded (path : Path) (e : ConfigError) (journal : Journal) : Outcome :=
  ⟨1, "", journal, some (.ofLoading path e)⟩

/-- What is told besides the output: the reports that a threshold lets through, and the failure. -/
def diagnostics (outcome : Outcome) (threshold : Threshold) : String :=
  String.join ((outcome.journal.lines threshold).map (· ++ "\n")) ++
    (outcome.failure.map Failure.message).getD ""

end Outcome

end TilingConfig.CommandLine
