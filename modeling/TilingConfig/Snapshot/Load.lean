import TilingConfig.Document.Load
import TilingConfig.Snapshot.Journal

/-!
# Snapshots from files

A snapshot is loaded in two steps: the document is read with its includes, and its
settings are built. Either step fails as a whole.
-/

namespace TilingConfig

open TilingConfig.Files TilingConfig.Log

variable [Parsers]

/-- What a successful load leaves. -/
structure Loaded where
  /-- The main file. -/
  path : Path
  /-- Every file that was read, the main file first. -/
  sources : List Path
  /-- The snapshot built from them. -/
  snapshot : Snapshot

/-- Build a document that was read from a main file. -/
def Document.build (document : Document) (path : Path) : Except ConfigError Loaded :=
  (TilingConfig.build document.root).map fun snapshot => ⟨path, document.files, snapshot⟩

/-- Load the snapshot of a main file. -/
def Loaded.ofFile (view : View) (path : Path) : Except ConfigError Loaded :=
  (Document.load view path).1.bind fun document => document.build path

/-- The reports of a load. -/
def loadJournal (view : View) (path : Path) : Journal :=
  let (result, journal) := Document.load view path
  journal ++
    match result with
    | .ok document => buildJournal document.root
    | .error _ => []

end TilingConfig
