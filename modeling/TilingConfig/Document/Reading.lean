import TilingConfig.Log
import TilingConfig.Snapshot.Error

/-!
# Reading with includes

While files are read, a loader keeps the chain of the files that include one
another, the files read so far, and the reports of the work. A reading that fails
leaves the loader as it was at the failure.
-/

namespace TilingConfig.Document

open TilingConfig.Files

/-- What is known while files are read. -/
structure Loader where
  /-- The files that are being read, by what they really are; the innermost comes first. -/
  chain : List Components
  /-- The files that have been read, in order. -/
  files : List Path
  /-- The reports so far. -/
  journal : Log.Journal

namespace Loader

/-- A loader before the first file. -/
def start : Loader := ⟨[], [], []⟩

/-- Report a step of the work. -/
def report (loader : Loader) (message : String) : Loader :=
  { loader with journal := loader.journal ++ [⟨.debug, .files, message⟩] }

/-- Go into a file that has been read: it is noted, and stands at the end of the chain. -/
def enter (loader : Loader) (path : Path) (file : Components) : Loader where
  chain := file :: loader.chain
  files := loader.files ++ [path]
  journal := (loader.report ("reading config file " ++ path.text)).journal

/-- Take the innermost file off the chain. -/
def leave (loader : Loader) : Loader := { loader with chain := loader.chain.drop 1 }

end Loader

/-- Something that is read with a loader. A reading that fails leaves a loader, too. -/
abbrev Reading (α : Type) := Loader → Except ConfigError α × Loader

/-- The setting whose value names further files. -/
def includeName : String := "include"

/-- Where a target named in the file `source` is to be found. -/
def resolveTarget (source target : Path) : Path :=
  if target.isAbsolute then target
  else match source.parent? with
    | some directory => directory.join target
    | none => target

end TilingConfig.Document
