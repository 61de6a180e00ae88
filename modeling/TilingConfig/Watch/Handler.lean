import TilingConfig.Files.View

/-!
# Watch events

A handler gets what the system reports about directories and tells which watched
file has changed. After it has told of a change it stays silent for a while, so
that a burst of reports leads to one event: the first.
-/

namespace TilingConfig.Watch

open TilingConfig.Files

/-- What has happened to an entry of a directory. -/
inductive ChangeKind where
  /-- It was created. -/
  | create
  /-- It was written or renamed. -/
  | modify
  /-- It was removed. -/
  | remove
  /-- It was opened, read or closed. -/
  | access
  /-- Something else. -/
  | other
  deriving DecidableEq, Repr

/-- Whether the text of a file may be another one now. A file that is renamed into place is
created. -/
def ChangeKind.matters : ChangeKind → Bool
  | create => true
  | modify => true
  | remove => false
  | access => false
  | other => false

/-- What the system reports. -/
inductive Notice where
  /-- The watch itself is in trouble. -/
  | trouble (message : String)
  /-- Something has happened to the entries at these paths. -/
  | change (kind : ChangeKind) (paths : List Path)
  deriving DecidableEq, Repr

/-- A notice at its time, with the files as they are then. -/
structure Arrival where
  /-- The files. -/
  view : View
  /-- The time. -/
  time : Nat
  /-- What is reported. -/
  notice : Notice

/-- The watched files and the state of the silence. -/
structure Handler where
  /-- The watched files, each by its canonical path. -/
  files : List Path
  /-- How long the silence lasts. -/
  delay : Nat
  /-- When the last event was sent. -/
  lastSent : Option Nat

namespace Handler

/-- Whether a watched file is the entry `name` of a directory. -/
def isEntryOf (file : Path) (name : String) (directory : Path) : Bool :=
  file.fileName? == some name &&
    (file.parent?.map Path.components == some directory.components)

/-- The watched file that a changed path names, however its directory is spelled. -/
def watched? (handler : Handler) (view : View) (changed : Path) : Option Path :=
  match changed.fileName?, changed.parent? with
  | some name, some directory =>
    handler.files.find? fun file => isEntryOf file name (view.canonical directory)
  | _, _ => none

/-- The watched file that a notice is about. -/
def relevant? (handler : Handler) (view : View) : Notice → Option Path
  | .trouble _ => none
  | .change kind paths => if kind.matters then paths.findSome? (handler.watched? view) else none

/-- Whether the silence is over. -/
def isDue (handler : Handler) (now : Nat) : Bool :=
  match handler.lastSent with
  | some previous => handler.delay ≤ now - previous
  | none => true

/-- Take a notice, and tell the file that has changed if it is time to. The silence begins with an
event that is sent, and no other. -/
def handle (handler : Handler) (arrival : Arrival) : Handler × Option Path :=
  match handler.relevant? arrival.view arrival.notice with
  | none => (handler, none)
  | some file =>
    if handler.isDue arrival.time then ({ handler with lastSent := some arrival.time }, some file)
    else (handler, none)

/-- Take notices in order; every one is answered by the event that it leads to, if any. -/
def run (handler : Handler) : List Arrival → Handler × List (Option Path)
  | [] => (handler, [])
  | arrival :: rest =>
    let (next, event) := handler.handle arrival
    let (last, events) := next.run rest
    (last, event :: events)

end Handler

end TilingConfig.Watch
