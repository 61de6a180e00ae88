import TilingConfig.Snapshot.Load

/-!
# Reports on a configuration

What is printed about a configuration: whether its file is valid, and the tables
of its bindings.
-/

namespace TilingConfig

open TilingConfig.Binding TilingConfig.Files TilingConfig.Text

variable [Parsers]

/-- The verdict on a configuration file. -/
structure Verdict where
  /-- Whether the file is valid. -/
  valid : Bool
  /-- The line that says so, and why not. -/
  line : String

/-- The verdict on the file at a path. -/
def Verdict.ofFile (view : View) (path : Path) : Verdict :=
  match Loaded.ofFile view path with
  | .ok loaded => ⟨true, path.text ++ ": ok (" ++ loaded.snapshot.summary ++ ")\n"⟩
  | .error e => ⟨false, path.text ++ ": error: " ++ e.message ++ "\n"⟩

/-- A row of a table: cells padded to their widths, and a last one that is not. -/
def tableRow (cells : List (Nat × String)) (last : String) : String :=
  "  " ++ String.join (cells.map fun (width, cell) => padRight width cell ++ " ") ++ last ++ "\n"

/-- The row of a key command. -/
def KeyCommand.row? (command : KeyCommand) : Option String :=
  command.arg.describe?.map
    (tableRow [(28, renderKey command.binding), (15, command.action.name)])

/-- The row of a button command. -/
def ButtonCommand.row? (command : ButtonCommand) : Option String :=
  command.arg.describe?.map
    (tableRow
      [(11, command.click.name), (16, renderButton command.binding), (15, command.action.name)])

/-- A table under its title, with the number of its rows. -/
def table (title : String) (rows : List String) : String :=
  title ++ " (" ++ toString rows.length ++ "):\n" ++ String.join rows

/-- The tables of all bindings, if every layout that an argument refers to is in the list. -/
def Snapshot.bindingTables? (snapshot : Snapshot) : Option String := do
  let keys ← snapshot.keys.mapM KeyCommand.row?
  let buttons ← snapshot.buttons.mapM ButtonCommand.row?
  some (table "keys" keys ++ table "buttons" buttons)

end TilingConfig
