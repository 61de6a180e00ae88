import TilingConfig.Proofs.Snapshot.Field
import TilingConfig.Proofs.Snapshot.WellFormed

/-!
# Defects and where they are

An error of a build names a section, a place in it, a field, and a defect. Here it is said
what each of these means in terms of the settings alone: what the fields of a section ask
for, how a value can fail to be that, and which value stands at a location.
-/

namespace TilingConfig

open TilingConfig.Binding TilingConfig.CoreInstances TilingConfig.Number

/-! ## What a field asks for -/

/-- What the fields of a command ask for. -/
def commandKinds : List (String × Kind) :=
  [("bind", .string), ("func", .string), ("cmd", .string), ("i", .integer), ("f", .float),
    ("layout", .string)]

/-- What the settings in the group of a section ask for. -/
def Section.kinds : Section → List (String × Kind)
  | appearance =>
    [("borderpx", .integer), ("snap", .integer), ("gappx", .integer), ("showbar", .boolean),
      ("topbar", .boolean), ("fonts", .strings), ("colors", .group)]
  | layout =>
    [("mfact", .float), ("nmaster", .integer), ("resizehints", .boolean),
      ("lockfullscreen", .boolean), ("refreshrate", .integer)]
  | tags => []
  | rule =>
    [("class", .string), ("instance", .string), ("title", .string), ("tagmask", .integer),
      ("floating", .boolean), ("monitor", .integer)]
  | key => commandKinds
  | button => ("click", .string) :: commandKinds

/-- The fields that stand in the group of colours. -/
def schemeFields : List String := schemeNames.map ("colors." ++ ·)

/-- What a field of a section asks for. -/
def Section.Asks (part : Section) (field : String) (asked : Kind) : Prop :=
  (field, asked) ∈ part.kinds ∨ part = .appearance ∧ field ∈ schemeFields ∧ asked = .strings

/-- The ranges of the fields of a section that have one. -/
def Section.ranges : Section → List (String × Range)
  | appearance =>
    [("borderpx", .unsigned32), ("snap", .unsigned32), ("gappx", .unsigned32),
      ("colors.norm", .colorCount), ("colors.sel", .colorCount)]
  | layout =>
    [("mfact", .masterFactor), ("nmaster", .unsigned32), ("refreshrate", .unsigned32)]
  | rule => [("tagmask", .unsigned32), ("monitor", .monitorIndex)]
  | tags | key | button => []

/-- The kinds of values that are taken for what is asked for. Whole numbers are numbers. -/
def Kind.accepts (asked found : Kind) : Bool :=
  match asked with
  | .float => found == .float || found == .integer
  | .strings => found == .array
  | other => found == other

/-- A value does not fit what is asked for: the value as a whole, or the first element of a list
that is no text. -/
inductive Misfit (asked : Kind) : Value → Mismatch → Prop
  | whole {value : Value} (refused : asked.accepts value.kind = false) :
      Misfit asked value ⟨asked, value.kind⟩
  | element {before after : List Value} {bad : Value} (isStrings : asked = .strings)
      (texts : ∀ value ∈ before, value.kind = .string) (refused : bad.kind ≠ .string) :
      Misfit asked (.array (before ++ bad :: after)) ⟨.string, bad.kind⟩

/-- A value is outside a range, and is written so. -/
inductive Outside : Range → Value → String → Prop
  | unsigned32 {i : Int64} (outside : i.toInt < 0 ∨ 2 ^ (32 : Nat) ≤ i.toInt) :
      Outside .unsigned32 (.int i) (toString i.toInt)
  | monitorIndex {i : Int64} (outside : i.toInt < -2 ^ (31 : Nat) ∨ 2 ^ (31 : Nat) ≤ i.toInt) :
      Outside .monitorIndex (.int i) (toString i.toInt)
  | masterFactor {value : Value} {x : Binary64} (number : value.float? = some x)
      (outside : x.le minMasterFactor = true ∨ maxMasterFactor.le x = true) :
      Outside .masterFactor value (x.render .message)
  | colorCount {texts : List String} (outside : texts.length ≠ 3) :
      Outside .colorCount (.array (texts.map .str)) (toString texts.length ++ " colours")

/-- A text is the first of three colours that does not have the form of one. -/
def FirstBadColor (value : Value) (text : String) : Prop :=
  ∃ before after : List String, value = .array ((before ++ text :: after).map .str) ∧
    (before ++ text :: after).length = 3 ∧ (∀ color ∈ before, HexColor color) ∧ ¬ HexColor text

/-- A descriptor is refused by the reader of the bindings of a section. -/
def Section.Refuses (input : String) (cause : Binding.Error) : Section → Prop
  | key => readKey input = .error cause
  | button => readButton input = .error cause
  | appearance | layout | tags | rule => False

/-! ## Following a location -/

/-- The value at a field of a section's group: the last setting of its name, which for the schemes
is inside the group of colours. -/
def Group.at? (group : Group) (field : String) : Option Value :=
  match schemeNames.find? fun name => "colors." ++ name == field with
  | some name => group.scheme? name
  | none => group.get? field

/-- The value of a section, or of one of its entries or of the tags. -/
def Section.valueAt? (root : Group) (part : Section) : Option Nat → Option Value
  | none => if part.isRepeated then none else root.get? part.name
  | some i =>
    match part with
    | .rule | .key | .button => (root.sections part.name)[i]?
    | .tags =>
      match root.get? part.name with
      | some (.array items) => items[i]?
      | _ => none
    | .appearance | .layout => none

/-- What is asked for of a section as a whole, of an entry or of a tag. -/
def Section.askedAt : Section → Option Nat → Kind
  | tags, none => .strings
  | tags, some _ => .string
  | _, _ => .group

/-- A field of a group has a defect. -/
def FieldDefect (part : Section) (group : Group) (field : String) : Defect → Prop
  | .missingField => field ∈ ["bind", "func", "click"] ∧ group.at? field = none
  | .fieldType mismatch => ∃ value asked, group.at? field = some value ∧
      part.Asks field asked ∧ Misfit asked value mismatch
  | .unknownAction name => field = "func" ∧ group.at? field = some (.str name) ∧
      name ∉ Action.registry.map Action.name
  | .unknownLayout name => field = "layout" ∧ group.at? field = some (.str name) ∧
      name ∉ Layout.registry.map Layout.name
  | .unknownClick name => field = "click" ∧ group.at? field = some (.str name) ∧
      name ∉ Click.registry.map Click.name
  | .binding input cause => field = "bind" ∧ group.at? field = some (.str input) ∧
      part.Refuses input cause
  | .invalidColor text => field ∈ schemeFields ∧
      ∃ value, group.at? field = some value ∧ FirstBadColor value text
  | .outOfRange text range => ∃ value, group.at? field = some value ∧
      (field, range) ∈ part.ranges ∧ Outside range value text

/-- The value at a location has a defect: the value itself, or a field of the group that it is. -/
def Location.Shows (root : Group) (location : Location) (defect : Defect) : Prop :=
  ∃ value, location.part.valueAt? root location.index = some value ∧
    match location.field with
    | some field => ∃ group, value = .group group ∧ FieldDefect location.part group field defect
    | none =>
      (location.part.askedAt location.index).accepts value.kind = false ∧
        defect = .fieldType ⟨location.part.askedAt location.index, value.kind⟩

end TilingConfig
