import TilingConfig.CommandLine.Invocation
import TilingConfig.CoreInstances
import TilingConfig.Text.Numeral

/-!
# Reading command lines

Words are read from left to right. A value is put aside when it is met and
examined when the next option, flag or path is; the words behind a command are
read to the end before what was put aside in front of it is examined. A mistake
in the form of a word is told at once, whatever has been put aside.
-/

namespace TilingConfig.CommandLine

open TilingConfig.CoreInstances TilingConfig.Files TilingConfig.Log TilingConfig.Text

/-- The form of a word. -/
inductive Word where
  /-- Two dashes: only plain words follow. -/
  | separator
  /-- Two dashes and a name, perhaps with a value behind an equals sign. -/
  | long (name : String) (value : Option String)
  /-- A dash and letters. -/
  | letters (first : Char)
  /-- A command, value or path. -/
  | plain
  deriving DecidableEq, Repr

/-- The form of a word. -/
def Word.ofString (text : String) : Word :=
  match text.toList with
  | ['-', '-'] => .separator
  | '-' :: '-' :: cs =>
    let name := cs.takeWhile (· != '=')
    match cs.drop name.length with
    | [] => .long (String.ofList name) none
    | _ :: value => .long (String.ofList name) (some (String.ofList value))
  | '-' :: first :: _ => .letters first
  | _ => .plain

/-- What can be given a value. -/
inductive Slot where
  | path
  | threshold
  | delay
  deriving DecidableEq, Repr

/-- The name of a slot in messages. -/
def Slot.label : Slot → String
  | path => "[PATH]"
  | threshold => "--log-level <LEVEL>"
  | delay => "--debounce-ms <DEBOUNCE_MS>"

/-- What an option does. -/
inductive Flag where
  /-- It asks for help. -/
  | help
  /-- It asks for the version. -/
  | version
  /-- It gives a slot its value. -/
  | valued (slot : Slot)
  deriving DecidableEq, Repr

/-- What the words so far have given. -/
structure Draft where
  /-- The path. -/
  path : Option Path
  /-- The threshold. -/
  threshold : Option Threshold
  /-- The delay. -/
  delay : Option Nat
  /-- What has been put aside: a slot, and its value if that has been met. -/
  pending : Option (Slot × Option String)

/-- The options of long names. Without a command there is the version but no delay. -/
def longFlag? (command : Option Command) (name : String) : Option Flag :=
  if name = "help" then some .help
  else if name = "log-level" then some (.valued .threshold)
  else if name = "version" && command.isNone then some .version
  else if name = "debounce-ms" && command == some .watch then some (.valued .delay)
  else none

/-- The options of single letters. -/
def letterFlag? (command : Option Command) (letter : Char) : Option Flag :=
  if letter = 'h' then some .help
  else if letter = 'V' && command.isNone then some .version
  else none

/-- The first number that is too long for a delay. -/
def delayBound : Nat := 2 ^ (64 : Nat)

/-- The threshold of a name in lower-case letters. -/
def threshold? (text : String) : Option Threshold :=
  Threshold.all.find? fun threshold => (Threshold.name threshold).toLower == text

namespace Draft

/-- Nothing yet. -/
def empty : Draft := ⟨none, none, none, none⟩

/-- Give a slot a value. No slot takes a second one. -/
def assign (draft : Draft) (slot : Slot) (text : String) : Except Stop Draft :=
  match slot with
  | .path =>
    if draft.path.isSome then .error (.repeated slot.label)
    else if text.isEmpty then .error (.badValue slot.label text)
    else .ok { draft with path := some ⟨text⟩ }
  | .threshold =>
    if draft.threshold.isSome then .error (.repeated slot.label)
    else match threshold? text with
      | some threshold => .ok { draft with threshold := some threshold }
      | none => .error (.badValue slot.label text)
  | .delay =>
    if draft.delay.isSome then .error (.repeated slot.label)
    else match unsigned? 10 delayBound text.toList with
      | some delay => .ok { draft with delay := some delay }
      | none => .error (.badNumber slot.label text)

/-- Examine what has been put aside. -/
def settle (draft : Draft) : Except Stop Draft :=
  match draft.pending with
  | none => .ok draft
  | some (slot, some text) => { draft with pending := none }.assign slot text
  | some (slot, none) => .error (.badValue slot.label "")

/-- The slot whose value is to come next. -/
def awaited (draft : Draft) : Option Slot :=
  match draft.pending with
  | some (slot, none) => some slot
  | _ => none

/-- Put a slot aside, with its value if that has been met. -/
def putAside (draft : Draft) (slot : Slot) (value : Option String) : Draft :=
  { draft with pending := some (slot, value) }

/-- Whether a path has been met. -/
def hasPath (draft : Draft) : Bool :=
  draft.path.isSome || (draft.pending.map Prod.fst == some .path)

/-- Read an option without a value of its own. -/
def readFlag (draft : Draft) (flag : Flag) : Except Stop Draft := do
  let draft ← draft.settle
  match flag with
  | .help => .error .help
  | .version => .error .version
  | .valued slot => .ok (draft.putAside slot none)

/-- Read an option of a long name. -/
def readLong (draft : Draft) (command : Option Command) (name : String) (value : Option String) :
    Except Stop Draft :=
  match longFlag? command name, value with
  | none, _ => .error (.unknownArgument ("--" ++ name))
  | some flag, none => draft.readFlag flag
  | some (.valued slot), some text => do (← draft.settle).assign slot text
  | some _, some text => .error (.unneededValue ("--" ++ name) text)

/-- Read an option of a single letter. -/
def readLetter (draft : Draft) (command : Option Command) (letter : Char) : Except Stop Draft :=
  match letterFlag? command letter with
  | none => .error (.unknownArgument ("-" ++ letter.toString))
  | some flag => draft.readFlag flag

/-- Read a path. -/
def readPath (draft : Draft) (text : String) : Except Stop Draft :=
  if draft.hasPath then .error (.unknownArgument text)
  else return (← draft.settle).putAside .path (some text)

end Draft

/-- Read the plain words behind a separator. -/
def readPaths : Draft → List String → Except Stop Draft
  | draft, [] => draft.settle
  | draft, text :: rest => do readPaths (← draft.readPath text) rest

/-- Read the words behind a command. -/
def readOperands (command : Command) : Draft → List String → Except Stop Draft
  | draft, [] => draft.settle
  | draft, text :: rest =>
    match Word.ofString text with
    | .separator => readPaths draft rest
    | .long name value => do
      readOperands command (← draft.readLong (some command) name value) rest
    | .letters first => do readOperands command (← draft.readLetter (some command) first) rest
    | .plain =>
      match draft.awaited with
      | some slot => readOperands command (draft.putAside slot (some text)) rest
      | none => do readOperands command (← draft.readPath text) rest

/-- Read the words behind a request for help, which may name one command. -/
def readHelp : List String → Stop
  | [] => .help
  | name :: rest =>
    if (Command.ofName? name).isNone && name != "help" then .unknownCommand name
    else match rest with
      | [] => .help
      | extra :: _ => .unknownCommand extra

/-- The end of a command line without a command. -/
def withoutCommand (draft : Draft) : Except Stop Invocation := do
  if (← draft.settle).threshold.isNone then .error .nothingAsked else .error .missingCommand

/-- Read the words behind a separator that comes before any command. -/
def readStray (draft : Draft) : List String → Except Stop Invocation
  | [] => withoutCommand draft
  | text :: _ =>
    if (Command.ofName? text).isSome || text == "help" then .error (.unknownArgument text)
    else .error (.unknownCommand text)

/-- Read the words of a command line. An option that is given on both sides of the command has the
value from behind it. -/
def readWords : Draft → List String → Except Stop Invocation
  | draft, [] => withoutCommand draft
  | draft, text :: rest =>
    match draft.awaited, Command.ofName? text with
    | none, some command => do
      let inner ← readOperands command .empty rest
      let outer ← draft.settle
      return ⟨command.task inner.delay, inner.path, inner.threshold.or outer.threshold⟩
    | awaited, _ =>
      if awaited.isNone && text == "help" then .error (readHelp rest)
      else match Word.ofString text with
        | .separator => readStray draft rest
        | .long name value => do readWords (← draft.readLong none name value) rest
        | .letters first => do readWords (← draft.readLetter none first) rest
        | .plain =>
          match awaited with
          | some slot => readWords (draft.putAside slot (some text)) rest
          | none => .error (.unknownCommand text)

/-- Read a command line, given without the name of the program. -/
def Invocation.ofWords (words : List String) : Except Stop Invocation := readWords .empty words

end TilingConfig.CommandLine
