import TilingConfig.Watch.Handler

/-!
# Watchers

A watcher looks after a set of files. It is told paths and keeps the canonical
ones, each once, in the order of first appearance; events wait in a queue until
they are asked for.
-/

namespace TilingConfig.Watch

open TilingConfig.Files

/-- Why files cannot be watched. -/
inductive WatchError where
  /-- No paths are given. -/
  | noFiles
  /-- Nothing is at a path. -/
  | notFound (path : Path)
  /-- A path is in no directory. -/
  | noDirectory (path : Path)
  deriving DecidableEq, Repr

/-- The wording of an error. -/
def WatchError.message : WatchError → String
  | noFiles => "no config files to watch"
  | notFound path => "config file not found: " ++ path.text
  | noDirectory path => "config path has no parent: " ++ path.text

/-- Whether a path is in a list, compared by what it names. -/
def isListed (files : List Path) (path : Path) : Bool :=
  files.any fun file => file.components == path.components

/-- Put a path at the end of a list if it is not there yet. -/
def addNew (files : List Path) (path : Path) : List Path :=
  if isListed files path then files else files ++ [path]

/-- Whether two lists name the same files, in any order and number. -/
def sameFiles (a b : List Path) : Bool := a.all (isListed b) && b.all (isListed a)

/-- The canonical paths of files that have to be there, in order of first appearance. -/
def canonicalFiles (view : View) (paths : List Path) : Except WatchError (List Path) :=
  match paths.find? fun path => !view.exists? path with
  | some path => .error (.notFound path)
  | none => .ok ((paths.map view.canonical).foldl addNew [])

/-- A handler with the events that have not been asked for yet. -/
structure Watcher where
  /-- What decides about events. -/
  handler : Handler
  /-- The files of the waiting events, oldest first. -/
  waiting : List Path

namespace Watcher

/-- The watched files. -/
def files (watcher : Watcher) : List Path := watcher.handler.files

/-- Watch the files at some paths. -/
def ofPaths (view : View) (paths : List Path) (delay : Nat) : Except WatchError Watcher := do
  if paths.isEmpty then .error .noFiles
  let files ← canonicalFiles view paths
  match files.find? fun file => file.parent?.isNone with
  | some file => .error (.noDirectory file)
  | none => .ok ⟨⟨files, delay, none⟩, []⟩

/-- Whether exactly the files at some paths are watched. -/
def watches (watcher : Watcher) (view : View) (paths : List Path) : Bool :=
  sameFiles (paths.map view.canonical) watcher.files

/-- A watcher of the files at some paths: the given one if it watches just these, else a new
one. -/
def refresh (watcher : Watcher) (view : View) (paths : List Path) (delay : Nat) :
    Except WatchError Watcher :=
  if watcher.watches view paths then .ok watcher else ofPaths view paths delay

/-- Take a notice. -/
def take (watcher : Watcher) (arrival : Arrival) : Watcher :=
  let (handler, event) := watcher.handler.handle arrival
  ⟨handler, watcher.waiting ++ event.toList⟩

/-- The oldest waiting event, and the watcher without it. -/
def next (watcher : Watcher) : Option Path × Watcher :=
  (watcher.waiting.head?, { watcher with waiting := watcher.waiting.drop 1 })

end Watcher

end TilingConfig.Watch
