import TilingConfig.Snapshot.Load

/-!
# The life of the current snapshot

At every time one snapshot is current: at first a fallback, or what a first load
has given, and later what the last successful load has given. Loads are counted,
and so are the loaded snapshots that a later one has replaced; a fallback is never
counted. Both counters are machine words, which begin again with zero when they are
full.
-/

namespace TilingConfig

open TilingConfig.Files TilingConfig.Log

variable [Parsers]

/-- The current snapshot, and whether it comes from files. -/
inductive Current where
  /-- A snapshot that was given at the start. -/
  | fallback (snapshot : Snapshot)
  /-- A snapshot from files. -/
  | loaded (snapshot : Snapshot)

/-- Whether a file has been loaded. -/
inductive State where
  | noneLoaded
  | loaded
  deriving DecidableEq, Repr

/-- The name of a state. -/
def State.name : State → String
  | noneLoaded => "NoneLoaded"
  | loaded => "Loaded"

/-- The current snapshot with its origin and the counters. -/
structure Lifecycle where
  /-- The current snapshot. -/
  current : Current
  /-- The main file that it comes from. -/
  path? : Option Path
  /-- Every file that it comes from, the main file first. -/
  sources : List Path
  /-- How many loads have succeeded. -/
  generation : UInt64
  /-- How many loaded snapshots have been replaced. -/
  released : UInt64

namespace Lifecycle

/-- Start with a fallback. -/
def ofFallback (snapshot : Snapshot) : Lifecycle := ⟨.fallback snapshot, none, [], 0, 0⟩

/-- Start with the built-in configuration. -/
def standard : Lifecycle := ofFallback Default.snapshot

/-- Start with a first load. -/
def ofLoaded (load : Loaded) : Lifecycle :=
  ⟨.loaded load.snapshot, some load.path, load.sources, 1, 0⟩

/-- The current snapshot. -/
def snapshot (life : Lifecycle) : Snapshot :=
  match life.current with
  | .fallback snapshot => snapshot
  | .loaded snapshot => snapshot

/-- Whether a file has been loaded. -/
def state (life : Lifecycle) : State :=
  match life.current with
  | .fallback _ => .noneLoaded
  | .loaded _ => .loaded

/-- Start from a file, with nothing to fall back on. -/
def ofFile (view : View) (path : Path) : Except ConfigError Lifecycle :=
  (Loaded.ofFile view path).map ofLoaded

/-- What can be done with a life. It leaves a life, also when it fails. -/
abbrev Operation := Lifecycle → Except ConfigError Unit × Lifecycle

/-- Make a load current. The snapshot that it replaces is counted, unless it is a fallback. -/
def publish (life : Lifecycle) (load : Loaded) : Lifecycle :=
  let previous := life.current
  let life := { life with current := .loaded load.snapshot }
  let life :=
    match previous with
    | .fallback _ => life
    | .loaded _ => { life with released := life.released + 1 }
  let life := { life with generation := life.generation + 1 }
  let life := { life with path? := some load.path }
  { life with sources := load.sources }

/-- Load a file and make it current. -/
def load (view : View) (path : Path) : Operation := fun life =>
  match Loaded.ofFile view path with
  | .error e => (.error e, life)
  | .ok load => (.ok (), life.publish load)

/-- Load the file of the last successful load again. -/
def reload (view : View) : Operation := fun life =>
  match life.path? with
  | none => (.error .notLoaded, life)
  | some path => load view path life

/-- What can be asked of the current snapshot. -/
inductive Request where
  /-- Load a file. -/
  | load (path : Path)
  /-- Load the last file again. -/
  | reload

/-- What is done at a request. -/
def serve (view : View) : Request → Operation
  | .load path => load view path
  | .reload => reload view

/-- The life after a sequence of requests, each with the files as they are at its time. -/
def run (requests : List (View × Request)) (life : Lifecycle) : Lifecycle :=
  requests.foldl (fun life (view, request) => (serve view request life).2) life

/-- The report of a load that was tried, with the life that it left. -/
def loadReport (before : Lifecycle) (path : Path) : Except ConfigError Unit × Lifecycle → Record
  | (.ok (), life) =>
    ⟨.info, .lifecycle,
      "config loaded from " ++ path.text ++ ": " ++ before.state.name ++ " -> " ++
        life.state.name ++ " (generation " ++ toString life.generation ++ ", " ++
        toString life.released ++ " released)"⟩
  | (.error e, life) =>
    ⟨.error, .lifecycle,
      "config load from " ++ path.text ++ " failed, keeping generation " ++
        toString life.generation ++ ": " ++ e.message⟩

/-- The reports of loading a file. -/
def journal (view : View) (path : Path) (life : Lifecycle) : Journal :=
  loadJournal view path ++ [life.loadReport path (load view path life)]

end Lifecycle

end TilingConfig
