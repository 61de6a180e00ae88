import TilingConfig.Document.Surface
import TilingConfig.Toml.Draft
import TilingConfig.Toml.Settings
import TilingConfig.Yaml.Settings
import TilingConfig.Yaml.Walk

/-!
# Documents

A document is the settings of a file with all that it includes, and the list of
the files that were read. A file that is being read cannot be included again, and
includes are nested to a limited depth.
-/

namespace TilingConfig

open TilingConfig.Files

/-- A configuration with its includes. -/
structure Document where
  /-- The settings. -/
  root : Group
  /-- The files that they come from, the main file first. -/
  files : List Path

/-- What tells the structure of a text, in either syntax. Documents are read with any two
parsers. -/
class Parsers where
  /-- The tree of a YAML text. -/
  yaml : List Char → Except Yaml.Fault Yaml.Node
  /-- The entries of a TOML text. -/
  toml : List Char → Except Toml.Fault (List (String × Toml.Item))

namespace Parsers

/-- The parsers of this library. Documents are read with them where this namespace is open. -/
scoped instance standard : Parsers := ⟨Yaml.Node.ofChars, Toml.readTable⟩

end Parsers

variable [Parsers]

namespace Document

/-- How deeply includes may be nested. -/
def includeDepth : Nat := 10

/-- The end of a text that is no YAML. Lines and columns are told from one; a fault of the whole
text has none. -/
def yamlFault (fault : Yaml.Fault) : Conversion Group :=
  match fault.mark with
  | some mark => .failed (mark.line + 1) (mark.column + 1) (.malformed fault.problem)
  | none => .failed 0 0 (.malformed fault.problem)

/-- The end of a text that is no TOML. -/
def tomlFault (text : List Char) (fault : Toml.Fault) : Conversion Group :=
  let (line, column) := Text.lineColumn text fault.offset
  .failed line column (.malformed fault.problem)

/-- The settings of a text. -/
def convert (surface : Surface) (text : String) : Conversion Group :=
  match surface with
  | .yaml =>
    match Parsers.yaml text.toList with
    | .ok node => Yaml.documentSettings node
    | .error fault => yamlFault fault
  | .toml =>
    match Parsers.toml text.toList with
    | .ok entries => Toml.settingsOf entries
    | .error fault => tomlFault text.toList fault

/-- The settings of a target named in the file `source`. -/
def fetchFrom (read : Path → Reading Group) (source : Path) (target : String) : Reading Group :=
  fun loader =>
    let resolved := resolveTarget source ⟨target⟩
    read resolved (loader.report (source.text ++ " includes " ++ resolved.text))

/-- The settings of a file and of all that it includes, with room for so many files in the chain.
The file is taken off the chain again, also after a failure. -/
def readFile (view : View) : Nat → Path → Reading Group
  | 0, path, loader => (.error (.includeDepth path), loader)
  | room + 1, path, loader =>
    let file := view.identity path
    if file ∈ loader.chain then (.error (.includeCycle path), loader)
    else match view.read path with
      | .error cause => (.error (.unreadable path cause), loader)
      | .ok text =>
        let (result, inner) :=
          (convert (.ofPath path) text).run path (fetchFrom (readFile view room) path)
            (loader.enter path file)
        (result, inner.leave)

/-- The document that a reading from the start leads to, and the reports of the work. -/
def ofReading (reading : Reading Group) (loader : Loader) :
    Except ConfigError Document × Log.Journal :=
  let (result, after) := reading loader
  (result.map fun root => ⟨root, after.files⟩, after.journal)

/-- The document in a file. -/
def load (view : View) (path : Path) : Except ConfigError Document × Log.Journal :=
  ofReading (readFile view (includeDepth + 1) path) .start

/-- The document in a text. Its includes are found as if it stood in the file `origin`, which it
cannot include itself. -/
def ofText (view : View) (surface : Surface) (origin : Path) (text : String) :
    Except ConfigError Document × Log.Journal :=
  ofReading ((convert surface text).run origin (fetchFrom (readFile view includeDepth) origin))
    { Loader.start with chain := [view.identity origin] }

end Document

end TilingConfig
