import TilingConfig.Files.Path
import TilingConfig.Log

/-!
# Invocations

What the program can be asked on its command line, and why a command line asks
for nothing that can be done.
-/

namespace TilingConfig.CommandLine

open TilingConfig.Files TilingConfig.Log

/-- The name under which the program is run. -/
def programName : String := "tagwm"

/-- The version of the program. -/
def version : String := "0.4.0"

/-- A command. -/
inductive Command where
  /-- Tell whether a file is valid. -/
  | check
  /-- Print the resolved configuration. -/
  | dump
  /-- Print the binding tables. -/
  | keys
  /-- Keep loading a file whenever it changes. -/
  | watch
  deriving DecidableEq, Repr

namespace Command

/-- The name of a command. -/
def name : Command → String
  | check => "check"
  | dump => "dump"
  | keys => "keys"
  | watch => "watch"

/-- What a command is for. -/
def purpose : Command → String
  | check => "Build a config file and report whether it is valid"
  | dump => "Print the resolved configuration as YAML"
  | keys => "Print the key and button binding tables"
  | watch => "Load a config file and reload it whenever it changes"

/-- Every command. -/
def all : List Command := [check, dump, keys, watch]

/-- The command of exactly this name. -/
def ofName? (text : String) : Option Command := all.find? (·.name == text)

/-- Every command is found by its name. -/
theorem ofName?_name (command : Command) : ofName? command.name = some command := by
  cases command <;> decide

end Command

/-- The silence after a change when nothing is said about it, in milliseconds. -/
def standardDelay : Nat := 300

/-- What the program is to do. -/
inductive Task where
  /-- Tell whether a file is valid. -/
  | check
  /-- Print the resolved configuration. -/
  | dump
  /-- Print the binding tables. -/
  | keys
  /-- Keep loading a file, with so many milliseconds of silence after a change. -/
  | watch (delay : Nat)
  deriving DecidableEq, Repr

/-- The command of a task. -/
def Task.command : Task → Command
  | check => .check
  | dump => .dump
  | keys => .keys
  | watch _ => .watch

/-- The task of a command with the delay that was given for it. -/
def Command.task (delay : Option Nat) : Command → Task
  | check => .check
  | dump => .dump
  | keys => .keys
  | watch => .watch (delay.getD standardDelay)

/-- What a command line asks for. -/
structure Invocation where
  /-- The task. -/
  task : Task
  /-- The file that it is about. -/
  path : Option Path
  /-- The threshold for reports that is asked for. -/
  threshold : Option Threshold
  deriving DecidableEq

/-- Why a command line leads to no task. -/
inductive Stop where
  /-- Help is asked for. -/
  | help
  /-- The version is asked for. -/
  | version
  /-- Nothing at all is asked for. -/
  | nothingAsked
  /-- Options are given, but no command. -/
  | missingCommand
  /-- A word in the place of a command is none. -/
  | unknownCommand (word : String)
  /-- An option is not known here, or a word is one too many. -/
  | unknownArgument (word : String)
  /-- An option or path has no value, or one that is not allowed. -/
  | badValue (what text : String)
  /-- A value is not a number of the allowed range. -/
  | badNumber (what text : String)
  /-- An option is given twice. -/
  | repeated (what : String)
  /-- An option that takes no value is given one. -/
  | unneededValue (what text : String)
  deriving DecidableEq, Repr

/-- The commands with what they are for. -/
def helpText : String :=
  let line (name purpose : String) := "  " ++ Text.padRight 6 name ++ " " ++ purpose ++ "\n"
  "Usage: " ++ programName ++ " [OPTIONS] <COMMAND>\n\nCommands:\n" ++
    String.join (Command.all.map fun command => line command.name command.purpose) ++
    line "help" "Print this message"

/-- The wording of a mistake; a request for help or for the version is answered instead. -/
def Stop.message : Stop → String
  | help => helpText
  | version => programName ++ " " ++ CommandLine.version ++ "\n"
  | nothingAsked => helpText
  | missingCommand => "error: a command is required\n"
  | unknownCommand word => "error: unrecognized command '" ++ word ++ "'\n"
  | unknownArgument word => "error: unexpected argument '" ++ word ++ "' found\n"
  | badValue what text => "error: invalid value '" ++ text ++ "' for '" ++ what ++ "'\n"
  | badNumber what text => "error: invalid number '" ++ text ++ "' for '" ++ what ++ "'\n"
  | repeated what => "error: '" ++ what ++ "' cannot be used more than once\n"
  | unneededValue what text => "error: unexpected value '" ++ text ++ "' for '" ++ what ++ "'\n"

/-- Whether a stop is a mistake of the command line and no request. -/
def Stop.isMistake : Stop → Bool
  | help => false
  | version => false
  | _ => true

end TilingConfig.CommandLine
