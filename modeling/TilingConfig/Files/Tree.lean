import TilingConfig.CoreInstances
import TilingConfig.Files.View

/-!
# File trees

A file system as a value: regular files, symbolic links and directories under
absolute names, and a working directory. Paths are followed name by name; links
are followed too, up to a limit.
-/

namespace TilingConfig.Files

open TilingConfig.CoreInstances

/-- What stands at one place of a tree. -/
inductive Entry where
  /-- A regular file and its bytes. -/
  | file (content : ByteArray)
  /-- A symbolic link and the path it holds. -/
  | link (target : Path)
  /-- A directory. -/
  | directory
  deriving DecidableEq

/-- A place, as the names from the root. -/
abbrev Place := List String

/-- A file system as a value. -/
structure Tree where
  /-- The directory from which relative paths start. -/
  workingDirectory : Place
  /-- The entries below the root, which is a directory itself. -/
  entries : List (Place × Entry)

namespace Tree

/-- The longest name of a single entry, in bytes. -/
def maxNameBytes : Nat := 255

/-- The first length of a whole path that is too long, in bytes. -/
def pathBytesLimit : Nat := 4096

/-- How many links may be followed for one path. -/
def maxLinks : Nat := 40

/-- The entry at a place. -/
def entryAt? (tree : Tree) (place : Place) : Option Entry :=
  if place.isEmpty then some .directory
  else (tree.entries.find? fun entry => entry.1 == place).map Prod.snd

/-- Whether a directory stands at a place. -/
def isDirectory (tree : Tree) (place : Place) : Bool := tree.entryAt? place == some .directory

/-- The names to follow for a path. A slash at the end asks for a directory, as a dot does. -/
def route (path : Path) : List String :=
  path.parts.filter (· != "") ++
    (if path.text.toList.getLast? = some '/' then ["."] else [])

/-- The place from which a path starts. -/
def start (base : Place) (path : Path) : Place := if path.isAbsolute then [] else base

/-- Follow names from a place, handing every link to `follow`. -/
def walkWith (tree : Tree) (follow : Place → List String → Except ReadError Place) :
    Place → List String → Except ReadError Place
  | place, [] => .ok place
  | place, name :: rest =>
    if !tree.isDirectory place then .error .notADirectory
    else if name = "." then walkWith tree follow place rest
    else if name = ".." then walkWith tree follow place.dropLast rest
    else if maxNameBytes < name.utf8ByteSize then .error .invalidFilename
    else match tree.entryAt? (place ++ [name]) with
      | none => .error .notFound
      | some (.link target) => follow (start place target) (route target ++ rest)
      | some _ => walkWith tree follow (place ++ [name]) rest

/-- Follow names from a place, through at most the given number of links. -/
def walk (tree : Tree) : Nat → Place → List String → Except ReadError Place
  | 0 => tree.walkWith fun _ _ => .error .filesystemLoop
  | links + 1 => tree.walkWith (tree.walk links)

/-- The place that a path leads to, with every link followed. -/
def locate (tree : Tree) (path : Path) : Except ReadError Place :=
  if path.text.toList.contains '\x00' then .error .invalidInput
  else if path.text.isEmpty then .error .notFound
  else if pathBytesLimit ≤ path.text.utf8ByteSize then .error .invalidFilename
  else tree.walk maxLinks (start tree.workingDirectory path) (route path)

/-- The text of the file that a path leads to. -/
def read (tree : Tree) (path : Path) : Except ReadError String :=
  match tree.locate path with
  | .error e => .error e
  | .ok place =>
    match tree.entryAt? place with
    | some (.file content) =>
      match String.fromUTF8? content with
      | some text => .ok text
      | none => .error .invalidData
    | some _ => .error .isADirectory
    | none => .error .notFound

/-- The tree as a reader sees it. -/
def view (tree : Tree) : View where
  read := tree.read
  exists? path := (tree.locate path).toOption.isSome
  canonical? path := (tree.locate path).toOption.map Path.ofNames

/-- Put an entry at a place, in place of what stood there. -/
def put (tree : Tree) (place : Place) (entry : Entry) : Tree :=
  { tree with
    entries := (tree.entries.filter fun old => old.1 != place) ++ [(place, entry)] }

/-- Take away the entry at a place and everything below it. -/
def remove (tree : Tree) (place : Place) : Tree :=
  { tree with entries := tree.entries.filter fun old => !place.isPrefixOf old.1 }

/-- Make the directories on the way to a place. -/
def makeParents (tree : Tree) (place : Place) : Tree :=
  let parents := (List.range place.length).map place.take
  parents.foldl (fun tree parent =>
    if (tree.entryAt? parent).isSome then tree else tree.put parent .directory) tree

/-- Move the entry at a place, and everything below it, to another place. -/
def rename (tree : Tree) (source target : Place) : Tree :=
  let moved := (tree.entries.filter fun old => source.isPrefixOf old.1).map fun old =>
    (target ++ old.1.drop source.length, old.2)
  let rest := (tree.remove source).remove target
  { rest with entries := rest.entries ++ moved }

end Tree

end TilingConfig.Files
