import TilingConfig.Lifecycle
import TilingConfig.Watch.Watcher

/-!
# Watch sessions

A session keeps the current snapshot up to date: it watches every file that the
snapshot comes from, and loads again when one of them changes. After a load it
watches the new set of files.
-/

namespace TilingConfig.Watch

open TilingConfig.Files

variable [Parsers]

/-- The current snapshot and the watch over its files. -/
structure Session where
  /-- The main file, as it was given. -/
  path : Path
  /-- How long the silence after a change lasts. -/
  delay : Nat
  /-- The current snapshot. -/
  life : Lifecycle
  /-- The watch over its files. -/
  watcher : Watcher

namespace Session

/-- Start to watch the files of a first load. -/
def start (view : View) (path : Path) (delay : Nat) (life : Lifecycle) :
    Except WatchError Session :=
  (Watcher.ofPaths view life.sources delay).map fun watcher => ⟨path, delay, life, watcher⟩

/-- The line that tells of a load. -/
def loadedLine (path : Path) (life : Lifecycle) : String :=
  path.text ++ ": loaded (generation " ++ toString life.generation ++ ")\n"

/-- The line that tells of a load after a change. -/
def reloadedLine (path : Path) (life : Lifecycle) : String :=
  path.text ++ ": reloaded (generation " ++ toString life.generation ++ ", " ++
    toString life.snapshot.keys.length ++ " keys)\n"

/-- The line that tells of a load after a change that failed. -/
def failedLine (path : Path) (life : Lifecycle) (e : ConfigError) : String :=
  path.text ++ ": reload failed, keeping generation " ++ toString life.generation ++ ": " ++
    e.message ++ "\n"

/-- Load again, and watch the files of the new snapshot. The line tells what has come of it. -/
def reload (session : Session) (view : View) :
    Except WatchError (Session × Except String String) :=
  match session.life.reload view with
  | (.error e, life) =>
    .ok ({ session with life := life }, .error (failedLine session.path life e))
  | (.ok (), life) =>
    (session.watcher.refresh view life.sources session.delay).map fun watcher =>
      ({ session with life := life, watcher := watcher }, .ok (reloadedLine session.path life))

/-- Take a notice, and load again if it leads to an event. -/
def take (session : Session) (arrival : Arrival) :
    Except WatchError (Session × Option (Except String String)) :=
  let (event, watcher) := (session.watcher.take arrival).next
  let session := { session with watcher := watcher }
  match event with
  | none => .ok (session, none)
  | some _ => (session.reload arrival.view).map fun (next, line) => (next, some line)

end Session

end TilingConfig.Watch
