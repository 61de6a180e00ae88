import TilingConfig.CommandLine.Environment
import TilingConfig.CommandLine.Outcome
import TilingConfig.CommandLine.Reader
import TilingConfig.Report
import TilingConfig.Snapshot.Dump
import TilingConfig.Watch.Session

/-!
# Running a command line

The commands look at a configuration without starting anything. `check` gives a
verdict on a file; `dump` and `keys` print a configuration, and take the built-in
one when the user has none; `watch` loads a file in order to keep it up to date.
-/

namespace TilingConfig.CommandLine

open TilingConfig.Files TilingConfig.Log

variable [Parsers]

/-- The file that an invocation is about: the given one, else the user's. -/
def Invocation.file (invocation : Invocation) (environment : Environment) : Path :=
  invocation.path.getD environment.userFile

/-- The report that the built-in configuration is ready for use. -/
def defaultsReport : Record :=
  ⟨.debug, .defaults,
    "built-in config ready: " ++ toString Default.snapshot.keys.length ++ " keys, " ++
      toString Default.snapshot.buttons.length ++ " buttons"⟩

/-- Tell whether a file is valid. -/
def runCheck (view : View) (path : Path) : Outcome :=
  let verdict := Verdict.ofFile view path
  ⟨if verdict.valid then 0 else 1, verdict.line, loadJournal view path, none⟩

/-- The end of a run that prints something about a snapshot. -/
def ofPrinting (printed? : Option String) (journal : Journal) : Outcome :=
  match printed? with
  | some output => .printed output journal
  | none => .aborted journal

/-- Print something about the configuration in a file. -/
def runPrint (view : View) (path : Path) (print? : Snapshot → Option String) : Outcome :=
  let journal := loadJournal view path
  match Loaded.ofFile view path with
  | .ok loaded => ofPrinting (print? loaded.snapshot) journal
  | .error e => .notLoaded path e journal

/-- Print something about the built-in configuration, for want of the file at a path. -/
def runPrintDefault (path : Path) (print? : Snapshot → Option String) : Outcome :=
  ofPrinting (print? Default.snapshot)
    [⟨.info, .commands, "no config at " ++ path.text ++ ", using built-in defaults"⟩,
      defaultsReport]

/-- Print something about a configuration: that of the given file, of the user's file if there is
one, or the built-in one. -/
def runPrintAny (view : View) (environment : Environment) (invocation : Invocation)
    (print? : Snapshot → Option String) : Outcome :=
  let path := invocation.file environment
  if invocation.path.isSome || view.exists? path then runPrint view path print?
  else runPrintDefault path print?

/-- Load a file for the first time in order to keep it up to date. -/
def runFirstLoad (view : View) (path : Path) : Outcome :=
  let life := Lifecycle.standard
  let journal := defaultsReport :: life.journal view path
  match life.load view path with
  | (.ok (), next) => .printed (Watch.Session.loadedLine path next) journal
  | (.error e, _) => .notLoaded path e journal

/-- The run of a task. -/
def Invocation.run (view : View) (environment : Environment) (invocation : Invocation) : Outcome :=
  let path := invocation.file environment
  match invocation.task with
  | .check => runCheck view path
  | .dump => runPrintAny view environment invocation Snapshot.dump?
  | .keys => runPrintAny view environment invocation Snapshot.bindingTables?
  | .watch _ => runFirstLoad view path

/-- The threshold for the reports of an invocation. -/
def Invocation.shown (environment : Environment) (invocation : Invocation) : Threshold :=
  .choose invocation.threshold environment.logDirectives

/-- The report with which every run begins. -/
def startReport : Record := ⟨.debug, .program, programName ++ " " ++ version⟩

/-- What a run shows: its exit code, its output, and what it tells besides. -/
structure Shown where
  /-- The exit code. -/
  code : Nat
  /-- The output. -/
  output : String
  /-- What is told besides. -/
  diagnostics : String

/-- What is shown for a command line that leads to no task. -/
def Stop.shown (stop : Stop) : Shown :=
  if stop.isMistake then ⟨2, "", stop.message⟩ else ⟨0, stop.message, ""⟩

/-- Run a command line, given without the name of the program. -/
def runWords (view : View) (environment : Environment) (words : List String) : Shown :=
  match Invocation.ofWords words with
  | .error stop => stop.shown
  | .ok invocation =>
    let outcome := invocation.run view environment
    let whole := { outcome with journal := startReport :: outcome.journal }
    ⟨whole.code, whole.output, whole.diagnostics (invocation.shown environment)⟩

end TilingConfig.CommandLine
