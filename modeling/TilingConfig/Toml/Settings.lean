import TilingConfig.Document.Conversion
import TilingConfig.Toml.Item

/-!
# Settings of a TOML tree

A table becomes a group, and a date becomes its text. Where an include directive
stands, the settings of the named files follow.
-/

namespace TilingConfig.Toml

open TilingConfig.Document

mutual

/-- The value of an item. -/
def valueOf : Item → Conversion Value
  | .boolean b => pure (.bool b)
  | .integer i => pure (.int i)
  | .float x => pure (.float x)
  | .string s => pure (.str s)
  | .datetime text => pure (.str text)
  | .array items => do
    let values ← valuesOf items
    pure (.array values)
  | .table entries => do
    let settings ← settingsOf entries
    pure (.group settings)

/-- The values of several items. -/
def valuesOf : List Item → Conversion (List Value)
  | [] => pure []
  | item :: rest => do
    let value ← valueOf item
    let values ← valuesOf rest
    pure (value :: values)

/-- The settings of a table. -/
def settingsOf : List (String × Item) → Conversion Group
  | [] => pure []
  | (name, item) :: rest => do
    if name = includeName then
      let included ← includedBy item
      let settings ← settingsOf rest
      pure (included ++ settings)
    else
      let value ← valueOf item
      let settings ← settingsOf rest
      pure ((name, value) :: settings)

/-- The settings of the files that an include directive names. -/
def includedBy : Item → Conversion Group
  | .string target => .ofTarget target
  | .array targets => includedByAll targets
  | other => .fault (.includeTarget "an array" other.kindName)

/-- The settings of the files that several directives name. -/
def includedByAll : List Item → Conversion Group
  | [] => pure []
  | target :: rest => do
    let included ← includedBy target
    let settings ← includedByAll rest
    pure (included ++ settings)

end

end TilingConfig.Toml
