import TilingConfig.Snapshot.Default
import TilingConfig.Snapshot.Entry
import TilingConfig.Text.Numeral

/-!
# Building a snapshot

A snapshot is built from the settings of a whole configuration, section by section
and entry by entry. The first thing that does not resolve is the error of the
whole build; what is not given has its default value.
-/

namespace TilingConfig

open TilingConfig.Binding TilingConfig.Number TilingConfig.Text

/-- Whether a text has the form `#rrggbb`. -/
def isColor (text : String) : Bool :=
  match text.toList with
  | '#' :: digits => digits.length == 6 && digits.all fun c => (digitValue? 16 c).isSome
  | _ => false

/-- The scheme of three colours. -/
def colorScheme (entry : Entry) (field : String) (colors : List String) :
    Except ConfigError ColorScheme :=
  match colors with
  | [fg, bg, border] =>
    match colors.find? fun color => !isColor color with
    | some color => .error (entry.fault field (.invalidColor color))
    | none => .ok ⟨fg, bg, border⟩
  | _ =>
    .error (entry.fault field (.outOfRange (toString colors.length ++ " colours") .colorCount))

/-- The scheme of one name, or the given one when the name is not set. -/
def colorSchemeOr (entry : Entry) (group : Group) (name : String) (old : ColorScheme) :
    Except ConfigError ColorScheme := do
  let field := "colors." ++ name
  match ← entry.typed field (group.strings? name) with
  | none => .ok old
  | some colors => colorScheme entry field colors

/-- Both schemes of an appearance. -/
def colorsOr (entry : Entry) (old : Colors) : Except ConfigError Colors := do
  match ← entry.typed "colors" (entry.group.group? "colors") with
  | none => .ok old
  | some group =>
    let norm ← colorSchemeOr entry group "norm" old.norm
    let sel ← colorSchemeOr entry group "sel" old.sel
    .ok ⟨norm, sel⟩

/-- The appearance that an entry gives. -/
def appearanceOf (entry : Entry) : Except ConfigError Appearance := do
  let base := Default.appearance
  let borderpx ← entry.uint? "borderpx"
  let snap ← entry.uint? "snap"
  let gappx ← entry.uint? "gappx"
  let showbar ← entry.bool? "showbar"
  let topbar ← entry.bool? "topbar"
  let fonts ← entry.strings? "fonts"
  let colors ← colorsOr entry base.colors
  .ok
    { borderpx := borderpx.getD base.borderpx
      snap := snap.getD base.snap
      showbar := showbar.getD base.showbar
      topbar := topbar.getD base.topbar
      gappx := gappx.getD base.gappx
      fonts := fonts.getD base.fonts
      colors := colors }

/-- The appearance of a configuration. -/
def buildAppearance (root : Group) : Except ConfigError Appearance := do
  match ← onlySection? root .appearance with
  | none => .ok Default.appearance
  | some entry => appearanceOf entry

/-- The lower bound of the master-area factor, itself refused. -/
def minMasterFactor : Binary64 := .round false 5 100

/-- The upper bound of the master-area factor, itself refused. -/
def maxMasterFactor : Binary64 := .round false 95 100

/-- The master-area factor that an entry gives. It is compared with its bounds before it is
narrowed to the stored format. -/
def masterFactor? (entry : Entry) : Except ConfigError (Option Binary32) := do
  match ← entry.float? "mfact" with
  | none => .ok none
  | some factor =>
    if factor.le minMasterFactor || maxMasterFactor.le factor then
      .error (entry.fault "mfact" (.outOfRange (factor.render .message) .masterFactor))
    else .ok (some factor.narrow)

/-- The layout settings that an entry gives. -/
def layoutSettingsOf (entry : Entry) : Except ConfigError LayoutSettings := do
  let base := Default.layoutSettings
  let mfact ← masterFactor? entry
  let nmaster ← entry.uint? "nmaster"
  let resizehints ← entry.bool? "resizehints"
  let lockfullscreen ← entry.bool? "lockfullscreen"
  let refreshrate ← entry.uint? "refreshrate"
  .ok
    { mfact := mfact.getD base.mfact
      nmaster := nmaster.getD base.nmaster
      resizehints := resizehints.getD base.resizehints
      lockfullscreen := lockfullscreen.getD base.lockfullscreen
      refreshrate := refreshrate.getD base.refreshrate }

/-- The layout settings of a configuration. -/
def buildLayout (root : Group) : Except ConfigError LayoutSettings := do
  match ← onlySection? root .layout with
  | none => .ok Default.layoutSettings
  | some entry => layoutSettingsOf entry

/-- The name of a tag. -/
def tagOf (value : Value) (index : Nat) : Except ConfigError String :=
  match value with
  | .str name => .ok name
  | other => .error (.entry ⟨.tags, some index, none⟩ (.fieldType ⟨.string, other.kind⟩))

/-- The tags of a configuration. -/
def buildTags (root : Group) : Except ConfigError (List String) :=
  match root.get? Section.tags.name with
  | none => .ok Default.tags
  | some (.array items) => items.zipIdx.mapM fun (value, index) => tagOf value index
  | some other => .error (.entry ⟨.tags, none, none⟩ (.fieldType ⟨.strings, other.kind⟩))

/-- The window rule of an entry. -/
def ruleOf (entry : Entry) : Except ConfigError Rule := do
  let windowClass ← entry.str? "class"
  let windowInstance ← entry.str? "instance"
  let title ← entry.str? "title"
  let tags ← entry.uint? "tagmask"
  let isfloating ← entry.bool? "floating"
  let monitor ← entry.monitor? "monitor"
  .ok ⟨windowClass, windowInstance, title, tags.getD 0, isfloating.getD false, monitor.getD (-1)⟩

/-- The key command of an entry. -/
def keyCommandOf (entry : Entry) : Except ConfigError KeyCommand := do
  let binding ← entry.binding readKey
  let action ← entry.action
  let arg ← entry.argument
  .ok ⟨binding, action, arg⟩

/-- The click region of an entry. -/
def clickOf (entry : Entry) : Except ConfigError Click := do
  let name ← entry.requireStr "click"
  match Click.ofName? name with
  | some click => .ok click
  | none => .error (entry.fault "click" (.unknownClick name))

/-- The button command of an entry. -/
def buttonCommandOf (entry : Entry) : Except ConfigError ButtonCommand := do
  let click ← clickOf entry
  let binding ← entry.binding readButton
  let action ← entry.action
  let arg ← entry.argument
  .ok ⟨click, binding, action, arg⟩

/-- Build every entry of a repeated section. That all of them are groups is checked first. -/
def buildEntries {α : Type} (part : Section) (build : Entry → Except ConfigError α)
    (root : Group) : Except ConfigError (List α) := do
  let found ← entries root part
  found.mapM build

/-- The window rules of a configuration. -/
def buildRules : Group → Except ConfigError (List Rule) := buildEntries .rule ruleOf

/-- The key commands of a configuration. -/
def buildKeys : Group → Except ConfigError (List KeyCommand) := buildEntries .key keyCommandOf

/-- The button commands of a configuration. -/
def buildButtons : Group → Except ConfigError (List ButtonCommand) :=
  buildEntries .button buttonCommandOf

/-- Build a snapshot from the settings of a configuration. -/
def build (root : Group) : Except ConfigError Snapshot := do
  let appearance ← buildAppearance root
  let layout ← buildLayout root
  let tags ← buildTags root
  let rules ← buildRules root
  let keys ← buildKeys root
  let buttons ← buildButtons root
  .ok ⟨appearance, layout, tags, rules, keys, buttons⟩

end TilingConfig
