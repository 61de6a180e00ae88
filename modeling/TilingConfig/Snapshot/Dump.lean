import TilingConfig.Snapshot.Basic
import TilingConfig.Yaml.Form

/-!
# Dumps of snapshots

A snapshot written out in full, section by section. Slots of an argument that are
not filled are left out. A layout is written by its name, so there is a dump only if
every layout that is referred to is in the list.
-/

namespace TilingConfig

open TilingConfig.Binding TilingConfig.Number TilingConfig.Yaml

/-- A whole number. -/
def wholeForm (n : Int) : Form := .word (toString n)

/-- The form of a colour scheme. -/
def ColorScheme.form (scheme : ColorScheme) : Form :=
  .record [("fg", .text scheme.fg), ("bg", .text scheme.bg), ("border", .text scheme.border)]

/-- The form of an appearance. -/
def Appearance.form (appearance : Appearance) : Form :=
  .record [
    ("borderpx", wholeForm appearance.borderpx.toNat),
    ("snap", wholeForm appearance.snap.toNat),
    ("showbar", .bool appearance.showbar),
    ("topbar", .bool appearance.topbar),
    ("gappx", wholeForm appearance.gappx.toNat),
    ("fonts", .list (appearance.fonts.map .text)),
    ("colors", .record [
      ("norm", appearance.colors.norm.form), ("sel", appearance.colors.sel.form)])]

/-- The form of layout settings. -/
def LayoutSettings.form (layout : LayoutSettings) : Form :=
  .record [
    ("mfact", .word (layout.mfact.render .stored)),
    ("nmaster", wholeForm layout.nmaster.toNat),
    ("resizehints", .bool layout.resizehints),
    ("lockfullscreen", .bool layout.lockfullscreen),
    ("refreshrate", wholeForm layout.refreshrate.toNat)]

/-- The form of a window rule. -/
def Rule.form (rule : Rule) : Form :=
  .record [
    ("class", .optionalText rule.windowClass),
    ("instance", .optionalText rule.windowInstance),
    ("title", .optionalText rule.title),
    ("tags", wholeForm rule.tags.toNat),
    ("isfloating", .bool rule.isfloating),
    ("monitor", wholeForm rule.monitor.toInt)]

/-- The form of what the third slot of an argument holds. -/
def ArgTarget.form? : ArgTarget → Option Form
  | .text command => some (.tagged "text" command)
  | .layout ref => ref.layout?.map fun layout => .tagged "layout" layout.name

/-- The form of an argument. -/
def Argument.form? (arg : Argument) : Option Form := do
  let target ← arg.target.toList.mapM ArgTarget.form?
  some (.record (
    (arg.int.toList.map fun i => ("int", wholeForm i.toInt)) ++
    (arg.float.toList.map fun x => ("float", .word (x.render .stored))) ++
    (target.map fun form => ("target", form))))

/-- The form of a modifier mask. -/
def modsForm (mask : ModMask) : Form := .text mask.flagText

/-- The form of a key command. -/
def KeyCommand.form? (command : KeyCommand) : Option Form :=
  command.arg.form?.map fun arg => .record [
    ("binding", .record [
      ("mods", modsForm command.binding.mods),
      ("key", wholeForm command.binding.target.code.toNat)]),
    ("action", .text command.action.name),
    ("arg", arg)]

/-- The form of a button command. -/
def ButtonCommand.form? (command : ButtonCommand) : Option Form :=
  command.arg.form?.map fun arg => .record [
    ("click", .text command.click.name),
    ("binding", .record [
      ("mods", modsForm command.binding.mods),
      ("button", .text command.binding.target.name)]),
    ("action", .text command.action.name),
    ("arg", arg)]

/-- The form of a snapshot. -/
def Snapshot.form? (snapshot : Snapshot) : Option Form := do
  let keys ← snapshot.keys.mapM KeyCommand.form?
  let buttons ← snapshot.buttons.mapM ButtonCommand.form?
  some (.record [
    ("appearance", snapshot.appearance.form),
    ("layout", snapshot.layout.form),
    ("tags", .list (snapshot.tags.map .text)),
    ("rules", .list (snapshot.rules.map Rule.form)),
    ("keys", .list keys),
    ("buttons", .list buttons)])

/-- A snapshot written out in full. -/
def Snapshot.dump? (snapshot : Snapshot) : Option String := snapshot.form?.map Form.render

end TilingConfig
