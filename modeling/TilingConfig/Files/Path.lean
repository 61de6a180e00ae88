/-!
# Paths

A path is kept as it is written. Its components are what it names: empty parts
and dots inside are skipped, a dot in front of a relative path is kept, and two
dots are kept everywhere. Cutting and joining work on the written form, so that a
path is shown the way it was put together.
-/

namespace TilingConfig.Files

/-- A path, as written. -/
structure Path where
  /-- The written form. -/
  text : String
  deriving DecidableEq, Repr

/-- What a path names: where it starts, and the names to follow from there. -/
structure Components where
  /-- Whether the path starts at the root. -/
  absolute : Bool
  /-- The names to follow. -/
  names : List String
  deriving DecidableEq, Repr

/-- Cut a text at every occurrence of a character. -/
def splitAtChar (separator : Char) : List Char → List (List Char)
  | [] => [[]]
  | c :: cs =>
    if c = separator then [] :: splitAtChar separator cs
    else match splitAtChar separator cs with
      | [] => [[c]]
      | part :: parts => (c :: part) :: parts

namespace Path

/-- The parts between the slashes, empty ones included. -/
def parts (path : Path) : List String :=
  (splitAtChar '/' path.text.toList).map String.ofList

/-- Whether the path starts at the root. -/
def isAbsolute (path : Path) : Bool := path.text.toList.head? == some '/'

/-- What the path names. -/
def components (path : Path) : Components where
  absolute := path.isAbsolute
  names :=
    match path.parts with
    | [] => []
    | first :: rest =>
      (if first = "" then [] else [first]) ++ rest.filter fun part => part != "" && part != "."

/-- The absolute path that follows `names` from the root. -/
def ofNames (names : List String) : Path := ⟨"/" ++ "/".intercalate names⟩

/-- Drop slashes and dot components at the end; the text is given last character first. -/
def trimTail : List Char → List Char
  | '/' :: [] => ['/']
  | '/' :: rest => trimTail rest
  | '.' :: '/' :: rest => trimTail ('/' :: rest)
  | cs => cs

/-- The path without its last component; the root and the empty path have none to lose. -/
def parent? (path : Path) : Option Path :=
  match trimTail path.text.toList.reverse with
  | [] => none
  | ['/'] => none
  | trimmed => some ⟨String.ofList (trimTail (trimmed.dropWhile (· != '/'))).reverse⟩

/-- The last component, when it is a name of its own. -/
def fileName? (path : Path) : Option String :=
  path.components.names.getLast?.filter fun name => name != ".." && name != "."

/-- What stands behind the last dot of the file name, unless the name starts with that dot. -/
def extension? (path : Path) : Option String :=
  path.fileName?.bind fun name =>
    let backwards := name.toList.reverse
    let after := backwards.takeWhile (· != '.')
    match backwards.drop after.length with
    | '.' :: _ :: _ => some (String.ofList after.reverse)
    | _ => none

/-- Follow `target` from the directory `base`. An absolute target stands for itself. -/
def join (base target : Path) : Path :=
  if target.isAbsolute || base.text.isEmpty then target
  else if base.text.toList.getLast? = some '/' then ⟨base.text ++ target.text⟩
  else ⟨base.text ++ "/" ++ target.text⟩

end Path

end TilingConfig.Files
