import TilingConfig.Snapshot.Basic
import TilingConfig.Snapshot.Error

/-!
# Entries

An entry is a group that is being read, together with its place in the
configuration. Its fields are read by kind; a field that does not fit is an error
at that field.
-/

namespace TilingConfig

open TilingConfig.CoreInstances TilingConfig.Number

/-- A group that is being read, and where it sits. -/
structure Entry where
  /-- The settings. -/
  group : Group
  /-- The section it belongs to. -/
  part : Section
  /-- Its place among repeated sections. -/
  index : Option Nat

namespace Entry

/-- A defect at a field of the entry. -/
def fault (entry : Entry) (field : String) (defect : Defect) : ConfigError :=
  .entry ⟨entry.part, entry.index, some field⟩ defect

/-- A field that was read by kind. -/
def typed {α : Type} (entry : Entry) (field : String) :
    Except Mismatch α → Except ConfigError α
  | .ok value => .ok value
  | .error mismatch => .error (entry.fault field (.fieldType mismatch))

/-- A truth value. -/
def bool? (entry : Entry) (field : String) : Except ConfigError (Option Bool) :=
  entry.typed field (entry.group.bool? field)

/-- A whole number. -/
def int? (entry : Entry) (field : String) : Except ConfigError (Option Int64) :=
  entry.typed field (entry.group.int? field)

/-- A floating-point number. -/
def float? (entry : Entry) (field : String) : Except ConfigError (Option Binary64) :=
  entry.typed field (entry.group.float? field)

/-- A text. -/
def str? (entry : Entry) (field : String) : Except ConfigError (Option String) :=
  entry.typed field (entry.group.str? field)

/-- A list of texts. -/
def strings? (entry : Entry) (field : String) : Except ConfigError (Option (List String)) :=
  entry.typed field (entry.group.strings? field)

/-- A text that must be given. -/
def requireStr (entry : Entry) (field : String) : Except ConfigError String := do
  match ← entry.str? field with
  | some text => .ok text
  | none => .error (entry.fault field .missingField)

/-- A whole number that fits 32 bits without a sign. -/
def uint? (entry : Entry) (field : String) : Except ConfigError (Option UInt32) := do
  match ← entry.int? field with
  | none => .ok none
  | some i =>
    if 0 ≤ i.toInt ∧ i.toInt < 2 ^ (32 : Nat) then .ok (some (UInt32.ofNat i.toInt.toNat))
    else .error (entry.fault field (.outOfRange (toString i.toInt) .unsigned32))

/-- A monitor index, which fits 32 bits with a sign. -/
def monitor? (entry : Entry) (field : String) : Except ConfigError (Option Int32) := do
  match ← entry.int? field with
  | none => .ok none
  | some i =>
    if -2 ^ (31 : Nat) ≤ i.toInt ∧ i.toInt < 2 ^ (31 : Nat) then .ok (some (Int32.ofInt i.toInt))
    else .error (entry.fault field (.outOfRange (toString i.toInt) .monitorIndex))

/-- The action of the entry. -/
def action (entry : Entry) : Except ConfigError Action := do
  let name ← entry.requireStr "func"
  match Action.ofName? name with
  | some action => .ok action
  | none => .error (entry.fault "func" (.unknownAction name))

/-- The argument of the entry. -/
def argument (entry : Entry) : Except ConfigError Argument := do
  let text ← entry.str? "cmd"
  let int ← entry.int? "i"
  let float ← entry.float? "f"
  let layout ← entry.str? "layout"
  match Argument.resolve text int (float.map Binary64.narrow) layout with
  | .ok arg => .ok arg
  | .error name => .error (entry.fault "layout" (.unknownLayout name))

/-- The binding of the entry, read in the given way. -/
def binding {α : Type} (entry : Entry)
    (read : String → Except Binding.Error (Binding.Chord α)) :
    Except ConfigError (Binding.Chord α) := do
  let input ← entry.requireStr "bind"
  match read input with
  | .ok binding => .ok binding
  | .error cause => .error (entry.fault "bind" (.binding input cause))

end Entry

/-- The group of a section that is given once, if there is one. -/
def onlySection? (root : Group) (part : Section) : Except ConfigError (Option Entry) :=
  match root.get? part.name with
  | none => .ok none
  | some (.group group) => .ok (some ⟨group, part, none⟩)
  | some other => .error (.entry ⟨part, none, none⟩ (.fieldType ⟨.group, other.kind⟩))

/-- A repeated section at its place. -/
def entryOf (part : Section) (value : Value) (index : Nat) : Except ConfigError Entry :=
  match value with
  | .group group => .ok ⟨group, part, some index⟩
  | other => .error (.entry ⟨part, some index, none⟩ (.fieldType ⟨.group, other.kind⟩))

/-- The groups of a repeated section, in file order. -/
def entries (root : Group) (part : Section) : Except ConfigError (List Entry) :=
  (root.sections part.name).zipIdx.mapM fun (value, index) => entryOf part value index

end TilingConfig
