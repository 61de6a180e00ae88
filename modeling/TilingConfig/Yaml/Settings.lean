import TilingConfig.Document.Conversion
import TilingConfig.Yaml.Node

/-!
# Settings of a YAML tree

A mapping becomes a group. Settings without a value are dropped, tags are taken
off, and where an include directive stands, the settings of the named files
follow.
-/

namespace TilingConfig.Yaml

open TilingConfig.Document TilingConfig.Number

/-- The value of a whole number; one that fits no signed word is rounded. -/
def wholeValue (n : Int) : Value :=
  if Int64.minValue.toInt ≤ n ∧ n ≤ Int64.maxValue.toInt then .int (.ofInt n) else .float (.ofInt n)

mutual

/-- The value of a node; nothing has none. -/
def valueOf : Node → Conversion (Option Value)
  | .null => pure none
  | .bool b => pure (some (.bool b))
  | .integer n => pure (some (wholeValue n))
  | .float x => pure (some (.float x))
  | .string s => pure (some (.str s))
  | .sequence items => do
    let values ← valuesOf items
    pure (some (.array values))
  | .mapping entries => do
    let settings ← settingsOf entries
    pure (some (.group settings))
  | .tagged _ node => valueOf node

/-- The values of the nodes that have one. -/
def valuesOf : List Node → Conversion (List Value)
  | [] => pure []
  | item :: rest => do
    let value ← valueOf item
    let values ← valuesOf rest
    pure (value.toList ++ values)

/-- The settings of a mapping. -/
def settingsOf : List (Node × Node) → Conversion Group
  | [] => pure []
  | (.string name, value) :: rest => do
    if name = includeName then
      let included ← includedBy value
      let settings ← settingsOf rest
      pure (included ++ settings)
    else
      let value ← valueOf value
      let settings ← settingsOf rest
      pure (value.toList.map (fun value => (name, value)) ++ settings)
  | (key, _) :: _ => .fault (.settingName key.kindName)

/-- The settings of the files that an include directive names. -/
def includedBy : Node → Conversion Group
  | .string target => .ofTarget target
  | .sequence targets => includedByAll targets
  | .tagged _ node => includedBy node
  | other => .fault (.includeTarget "a list" other.kindName)

/-- The settings of the files that several directives name. -/
def includedByAll : List Node → Conversion Group
  | [] => pure []
  | target :: rest => do
    let included ← includedBy target
    let settings ← includedByAll rest
    pure (included ++ settings)

end

/-- The settings of a whole file: those of a mapping, or none if it holds nothing. -/
def documentSettings : Node → Conversion Group
  | .null => pure []
  | .mapping entries => settingsOf entries
  | other => .fault (.topLevel other.kindName)

end TilingConfig.Yaml
