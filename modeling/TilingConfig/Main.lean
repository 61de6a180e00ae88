import TilingConfig.CommandLine.Run

/-!
# The program

The files that a command needs are looked up one by one until the command can be
run on what is known of them. A watch looks at its files again and again.
-/

namespace TilingConfig.CommandLine

open TilingConfig.Files TilingConfig.Watch

open scoped Parsers

/-- What is known of the file system: the text and the canonical path of each path looked up. A path
that has a canonical one leads to something. -/
abbrev Known := List (Path × Except ReadError String × Option Path)

/-- The canonical path of a path, as far as it is known. -/
def Known.canonical? (known : Known) (path : Path) : Option Path :=
  (known.find? fun entry => entry.1 == path).bind fun entry => entry.2.2

/-- What is known, as a reader sees it. -/
def Known.view (known : Known) : View where
  read path :=
    match known.find? fun entry => entry.1 == path with
    | some (_, text, _) => text
    | none => .error .notFound
  exists? path := (known.canonical? path).isSome
  canonical? := known.canonical?

/-- The cause of a failed read. -/
def readError (e : IO.Error) : ReadError :=
  let known := [ReadError.notFound, .isADirectory, .notADirectory, .filesystemLoop,
    .invalidFilename]
  let code : Option UInt32 := match e with
    | .noFileOrDirectory _ code _ => some code
    | .inappropriateType _ code _ => some code
    | .invalidArgument _ code _ => some code
    | .resourceExhausted _ code _ => some code
    | _ => none
  -- Some calls give the number of the cause, others its negative.
  let number := (code.getD 0).toInt32.toInt.natAbs
  let suffix := "(os error " ++ toString number ++ ")"
  (known.find? fun cause => cause.message.endsWith suffix).getD (.other (toString e))

/-- Look a path up. -/
def lookUp (path : Path) : IO (Except ReadError String × Option Path) := do
  if path.text.toList.contains '\x00' then return (.error .invalidInput, none)
  let canonical ← try pure (some ⟨(← IO.FS.realPath path.text).toString⟩)
    catch _ => pure none
  let text ← try
      match String.fromUTF8? (← IO.FS.readBinFile path.text) with
      | some text => pure (.ok text)
      | none => pure (.error .invalidData)
    catch e => pure (.error (readError e))
  return (text, canonical)

/-- Look up what a load asks for, until it misses nothing. -/
partial def gather (known : Known) (path : Path) : IO Known := do
  match (Document.load known.view path).1 with
  | .error (.unreadable missing _) =>
    if known.any fun entry => entry.1 == missing then return known
    else gather ((missing, ← lookUp missing) :: known) path
  | _ => return known

/-- Print a text at once. -/
def say (text : String) : IO Unit := do
  IO.print text
  (← IO.getStdout).flush

/-- How often a watch looks at its files, in milliseconds. -/
def pollInterval : UInt32 := 500

/-- The texts of the watched files; one that cannot be read has none. -/
def texts (session : Session) : IO (List (Path × Option String)) :=
  session.watcher.files.mapM fun file => return (file, (← lookUp file).1.toOption)

/-- Load again whenever a watched file has another text than before. -/
partial def follow (session : Session) (before : List (Path × Option String)) : IO UInt32 := do
  IO.sleep pollInterval
  let now ← texts session
  let changed := now.filter fun entry => entry.2.isSome && !before.contains entry
  if changed.isEmpty then follow session now
  else
    let view := (← gather [] session.path).view
    let notice := .change .modify (changed.map Prod.fst)
    match session.take ⟨view, ← IO.monoMsNow, notice⟩ with
    | .error e =>
      IO.eprintln ("Error: " ++ e.message)
      return 1
    | .ok (next, line) =>
      match line with
      | some (.ok line) => say line
      | some (.error line) => IO.eprint line
      | none => pure ()
      follow next now

/-- Run a command line on the files and in the environment of the system. -/
def perform (words : List String) : IO UInt32 := do
  let home ← IO.getEnv "HOME"
  let configHome ← IO.getEnv "XDG_CONFIG_HOME"
  let directives ← IO.getEnv "RUST_LOG"
  let environment := Environment.ofVariables fun name =>
    (([("HOME", home), ("XDG_CONFIG_HOME", configHome), ("RUST_LOG", directives)].find?
      fun entry => entry.1 == name).map Prod.snd).getD none
  let request := Invocation.ofWords words
  let known ← match request with
    | .ok invocation => gather [] (invocation.file environment)
    | .error _ => pure []
  let shown := runWords known.view environment words
  say shown.output
  IO.eprint shown.diagnostics
  match request, shown.code with
  | .ok ⟨.watch delay, path, _⟩, 0 =>
    let path := path.getD environment.userFile
    match Lifecycle.standard.load known.view path with
    | (.error _, _) => return 1
    | (.ok (), life) =>
      match Session.start known.view path delay life with
      | .ok session => follow session (← texts session)
      | .error e =>
        IO.eprintln ("Error: " ++ e.message)
        return 1
  | _, code => return UInt32.ofNat code

end TilingConfig.CommandLine

/-- The program: run its command line, and exit with the code of the run. -/
def main (words : List String) : IO UInt32 := TilingConfig.CommandLine.perform words
