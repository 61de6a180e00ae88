import TilingConfig.Files.Tree

/-!
# Changes of file trees

Entries of a tree are put, taken away and moved. A path that is changed need not
be there; what leads to it is followed as far as it is. A file is written behind a
link, while a link itself is put, taken away and moved in its own place.
-/

namespace TilingConfig.Files

namespace Tree

/-- Follow names from a place, whether anything is there or not, handing every link to
`follow`. -/
def advanceWith (tree : Tree) (follow : Place → List String → Place) :
    Place → List String → Place
  | place, [] => place
  | place, name :: rest =>
    if name = "." then advanceWith tree follow place rest
    else if name = ".." then advanceWith tree follow place.dropLast rest
    else match tree.entryAt? (place ++ [name]) with
      | some (.link target) => follow (start place target) (route target ++ rest)
      | _ => advanceWith tree follow (place ++ [name]) rest

/-- Follow names from a place, through at most the given number of links. -/
def advance (tree : Tree) : Nat → Place → List String → Place
  | 0 => tree.advanceWith fun place names => place ++ names
  | links + 1 => tree.advanceWith (tree.advance links)

/-- The place that a path leads to, with every link followed. -/
def destination (tree : Tree) (path : Path) : Place :=
  tree.advance maxLinks (start tree.workingDirectory path) (route path)

/-- The place of the entry that a path names, which may be a link. -/
def ownPlace (tree : Tree) (path : Path) : Place :=
  match path.parent?, path.fileName? with
  | some directory, some name => tree.destination directory ++ [name]
  | _, _ => tree.destination path

end Tree

/-- A change of a tree. -/
inductive Change where
  /-- Put an entry at a path, and directories on the way to it. -/
  | store (path : Path) (entry : Entry)
  /-- Take away what is at a path. -/
  | remove (path : Path)
  /-- Move what is at a path to another. -/
  | rename (source target : Path)

namespace Change

/-- Where an entry that is put at a path comes to stand. -/
def storePlace (tree : Tree) (path : Path) : Entry → Place
  | .file _ => tree.destination path
  | .link _ => tree.ownPlace path
  | .directory => tree.ownPlace path

/-- The tree after a change. -/
def apply (tree : Tree) : Change → Tree
  | store path entry =>
    let place := storePlace tree path entry
    (tree.makeParents place).put place entry
  | remove path => tree.remove (tree.ownPlace path)
  | rename source target => tree.rename (tree.ownPlace source) (tree.ownPlace target)

/-- The entries that a change writes, creates or renames; a move touches both of its ends. -/
def touched (tree : Tree) : Change → List Path
  | store path entry => [.ofNames (storePlace tree path entry)]
  | remove _ => []
  | rename source target =>
    [.ofNames (tree.ownPlace source), .ofNames (tree.ownPlace target)]

end Change

end TilingConfig.Files
