import TilingConfig.Files.Path

/-!
# What a reader sees of a file system

Reading and watching configuration files needs three questions only: what text a
path holds, whether something is there, and which file it really names. A view
answers them; it may be any three functions.
-/

namespace TilingConfig.Files

/-- Why a path cannot be read. -/
inductive ReadError where
  /-- Nothing is there. -/
  | notFound
  /-- A directory is there. -/
  | isADirectory
  /-- A component that should be a directory is none. -/
  | notADirectory
  /-- Symbolic links lead round in a circle. -/
  | filesystemLoop
  /-- A name is too long. -/
  | invalidFilename
  /-- The path holds a NUL character. -/
  | invalidInput
  /-- The bytes are not UTF-8 text. -/
  | invalidData
  /-- Another failure, in the words of the system. -/
  | other (message : String)
  deriving DecidableEq, Repr

/-- The wording of the system for a read error. -/
def ReadError.message : ReadError → String
  | notFound => "No such file or directory (os error 2)"
  | isADirectory => "Is a directory (os error 21)"
  | notADirectory => "Not a directory (os error 20)"
  | filesystemLoop => "Too many levels of symbolic links (os error 40)"
  | invalidFilename => "File name too long (os error 36)"
  | invalidInput => "file name contained an unexpected NUL byte"
  | invalidData => "stream did not contain valid UTF-8"
  | other message => message

/-- A file system as a reader sees it. -/
structure View where
  /-- The text at a path. -/
  read : Path → Except ReadError String
  /-- Whether something is there. -/
  exists? : Path → Bool
  /-- The path of the same file without links and detours, when there is a file. -/
  canonical? : Path → Option Path

namespace View

/-- The canonical path; a path without one stands for itself. -/
def canonical (view : View) (path : Path) : Path := (view.canonical? path).getD path

/-- Which file a path names. -/
def identity (view : View) (path : Path) : Components := (view.canonical path).components

end View

end TilingConfig.Files
