import TilingConfig.Text.Blank

/-!
# Log records

What the parts of the program report about their work. A record has a level and
the part that it comes from; a threshold decides which records are shown.
-/

namespace TilingConfig.Log

open TilingConfig.Text

/-- How important a record is, most important first. -/
inductive Level where
  | error
  | warn
  | info
  | debug
  | trace
  deriving DecidableEq, Repr

namespace Level

/-- The name of a level. -/
def name : Level → String
  | error => "ERROR"
  | warn => "WARN"
  | info => "INFO"
  | debug => "DEBUG"
  | trace => "TRACE"

/-- The rank of a level, from one for the most important. -/
def rank : Level → Nat
  | error => 1
  | warn => 2
  | info => 3
  | debug => 4
  | trace => 5

end Level

/-- The least important level that is shown; without one nothing is. -/
abbrev Threshold := Option Level

namespace Threshold

/-- Whether records of a level are shown. -/
def shows (threshold : Threshold) (level : Level) : Bool :=
  match threshold with
  | some least => level.rank ≤ least.rank
  | none => false

/-- The name of a threshold. -/
def name (threshold : Threshold) : String :=
  match threshold with
  | some least => least.name
  | none => "OFF"

/-- Every threshold. -/
def all : List Threshold :=
  [none, some .error, some .warn, some .info, some .debug, some .trace]

/-- The threshold of a name in letters of either case. -/
def ofName? (text : String) : Option Threshold :=
  all.find? fun threshold => name threshold == text.toUpper

/-- The threshold when nothing is said about it. -/
def standard : Threshold := some .warn

/-- The last bare level in a list separated by commas. Directives for single parts hold an equals
sign and are passed over, as are words that are no level. -/
def ofDirectives? (text : String) : Option Threshold :=
  let directives := (text.splitOn ",").filter fun directive => !directive.toList.contains '='
  (directives.filterMap fun directive =>
    ofName? (String.ofList (trim directive.toList))).getLast?

/-- The threshold in force: the one asked for, else the one of the directives, else the standard
one. -/
def choose (asked : Option Threshold) (directives : Option String) : Threshold :=
  (asked.or (directives.bind ofDirectives?)).getD standard

end Threshold

/-- The parts of the program that report their work. -/
inductive Origin where
  /-- The program as a whole. -/
  | program
  /-- The commands. -/
  | commands
  /-- The built-in configuration. -/
  | defaults
  /-- The reading of files. -/
  | files
  /-- The reading of binding descriptors. -/
  | bindings
  /-- The building of snapshots. -/
  | build
  /-- The life of the current snapshot. -/
  | lifecycle
  deriving DecidableEq, Repr

/-- The name under which a part reports. -/
def Origin.name : Origin → String
  | program => "tagwm"
  | commands => "tagwm::cli"
  | defaults => "tagwm_config::defaults"
  | files => "tagwm_config::source"
  | bindings => "tagwm_keybindings::parser"
  | build => "tagwm_config::builder"
  | lifecycle => "tagwm_config::manager"

/-- A report of one part of the program. -/
structure Record where
  /-- How important it is. -/
  level : Level
  /-- The part that it comes from. -/
  origin : Origin
  /-- What it says. -/
  message : String
  deriving DecidableEq, Repr

/-- The line that shows a record. -/
def Record.line (record : Record) : String :=
  "[" ++ padRight 5 record.level.name ++ " " ++ record.origin.name ++ "] " ++ record.message

/-- What the parts have reported, in order. -/
abbrev Journal := List Record

/-- The lines that a threshold lets through. -/
def Journal.lines (journal : Journal) (threshold : Threshold) : List String :=
  (journal.filter fun record => threshold.shows record.level).map Record.line

end TilingConfig.Log
