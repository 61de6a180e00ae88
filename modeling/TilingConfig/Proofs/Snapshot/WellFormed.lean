import TilingConfig.Proofs.Binding.RoundTrip
import TilingConfig.Proofs.Lifecycle
import TilingConfig.Proofs.Snapshot.Repeated
import TilingConfig.Report
import TilingConfig.Snapshot.Dump

/-!
# Well-formed snapshots

What a host of the configuration relies on without a check of its own: colours have the
form `#rrggbb`, keys have a number, masks have the four protocol bits only, and a reference
to a layout is a place in the layout list. Every snapshot that is built has these
properties, since each comes from the check or the look-up of the field that it was read
from, and the built-in snapshot has them too. So they hold of the current snapshot at any
time. With every layout in the list, the snapshot can be printed.
-/

namespace TilingConfig

open TilingConfig.Binding TilingConfig.Files TilingConfig.Text

/-- A hexadecimal digit of either case. -/
def HexDigit (c : Char) : Prop :=
  '0' ≤ c ∧ c ≤ '9' ∨ 'a' ≤ c ∧ c ≤ 'f' ∨ 'A' ≤ c ∧ c ≤ 'F'

/-- A number sign and exactly six hexadecimal digits. -/
def HexColor (text : String) : Prop :=
  ∃ digits : List Char, text.toList = '#' :: digits ∧ digits.length = 6 ∧ ∀ c ∈ digits, HexDigit c

/-- All colours of a scheme have the form of a colour. -/
def ColorScheme.WellFormed (scheme : ColorScheme) : Prop :=
  ∀ color ∈ [scheme.fg, scheme.bg, scheme.border], HexColor color

/-- The place that a reference tells is inside the layout list. -/
def LayoutRef.InRange (ref : LayoutRef) : Prop := ref.index < Layout.registry.length

instance (ref : LayoutRef) : Decidable ref.InRange := inferInstanceAs (Decidable (_ < _))

/-- A layout that an argument refers to is in the list. -/
def Argument.WellFormed (arg : Argument) : Prop :=
  match arg.target with
  | some (.layout ref) => ref.InRange
  | some (.text _) => True
  | none => True

instance : DecidablePred Argument.WellFormed
  | ⟨_, _, some (.layout ref)⟩ => inferInstanceAs (Decidable ref.InRange)
  | ⟨_, _, some (.text _)⟩ => .isTrue trivial
  | ⟨_, _, none⟩ => .isTrue trivial

/-- What holds of every snapshot that can be current. -/
structure Snapshot.WellFormed (snapshot : Snapshot) : Prop where
  /-- The colours of unfocused elements can be parsed. -/
  norm : snapshot.appearance.colors.norm.WellFormed
  /-- So can those of focused ones. -/
  sel : snapshot.appearance.colors.sel.WellFormed
  /-- Zero stands for no key, and is not bound. -/
  keysym : ∀ command ∈ snapshot.keys, command.binding.target.code ≠ 0
  /-- Keys are held with known modifiers. -/
  keyMods : ∀ command ∈ snapshot.keys, command.binding.mods.HasProtocolBits
  /-- Keys refer to layouts of the list. -/
  keyArg : ∀ command ∈ snapshot.keys, command.arg.WellFormed
  /-- Buttons are held with known modifiers. -/
  buttonMods : ∀ command ∈ snapshot.buttons, command.binding.mods.HasProtocolBits
  /-- Buttons refer to layouts of the list. -/
  buttonArg : ∀ command ∈ snapshot.buttons, command.arg.WellFormed

/-! ## Colours -/

/-- The digits to the base of sixteen are those with a value below it. -/
theorem isSome_digitValue?_iff (c : Char) : (digitValue? 16 c).isSome = true ↔ HexDigit c := by
  simp only [digitValue?, HexDigit, Char.le_def, UInt32.le_iff_toNat_le, Char.toNat]
  simp only [Char.reduceVal, UInt32.reduceToNat]
  split_ifs
  all_goals
    simp only [Option.isSome_some, Option.isSome_none, Bool.false_eq_true, true_iff, false_iff]
    omega

/-- The check of a colour accepts exactly the form. -/
theorem isColor_iff {text : String} : isColor text = true ↔ HexColor text := by
  unfold isColor HexColor
  constructor
  · intro h
    split at h
    · next digits htext =>
      rw [Bool.and_eq_true, beq_iff_eq, List.all_eq_true] at h
      exact ⟨digits, htext, h.1, fun c hc => (isSome_digitValue?_iff c).1 (h.2 c hc)⟩
    · cases h
  · rintro ⟨digits, htext, hlength, hdigits⟩
    simp only [htext, Bool.and_eq_true, beq_iff_eq, List.all_eq_true]
    exact ⟨hlength, fun c hc => (isSome_digitValue?_iff c).2 (hdigits c hc)⟩

instance (text : String) : Decidable (HexColor text) := decidable_of_iff _ isColor_iff

instance (scheme : ColorScheme) : Decidable scheme.WellFormed :=
  inferInstanceAs (Decidable (∀ color ∈ _, HexColor color))

/-- A scheme is made of three colours that have been checked. -/
theorem wellFormed_of_colorScheme {entry : Entry} {field : String} {colors : List String}
    {scheme : ColorScheme} (h : colorScheme entry field colors = .ok scheme) :
    scheme.WellFormed := by
  unfold colorScheme at h
  split at h
  · next fg bg border =>
    split at h
    · cases h
    · next hnone =>
      obtain rfl := Except.ok.inj h
      intro color hcolor
      have hcheck := List.find?_eq_none.1 hnone color hcolor
      apply isColor_iff.1
      simpa using hcheck
  · cases h

/-- A scheme is the one from before or has been read. -/
theorem wellFormed_of_colorSchemeOr {entry : Entry} {group : Group} {name : String}
    {old scheme : ColorScheme} (hold : old.WellFormed)
    (h : colorSchemeOr entry group name old = .ok scheme) : scheme.WellFormed := by
  obtain ⟨found, -, h⟩ := bind_eq_ok_iff.1 h
  cases found with
  | none =>
    obtain rfl := Except.ok.inj h
    exact hold
  | some colors => exact wellFormed_of_colorScheme h

theorem wellFormed_of_colorsOr {entry : Entry} {old colors : Colors}
    (hnorm : old.norm.WellFormed) (hsel : old.sel.WellFormed)
    (h : colorsOr entry old = .ok colors) :
    colors.norm.WellFormed ∧ colors.sel.WellFormed := by
  obtain ⟨found, -, h⟩ := bind_eq_ok_iff.1 h
  cases found with
  | none =>
    obtain rfl := Except.ok.inj h
    exact ⟨hnorm, hsel⟩
  | some group =>
    obtain ⟨norm, hnorm', h⟩ := bind_eq_ok_iff.1 h
    obtain ⟨sel, hsel', h⟩ := bind_eq_ok_iff.1 h
    obtain rfl := Except.ok.inj h
    exact ⟨wellFormed_of_colorSchemeOr hnorm hnorm', wellFormed_of_colorSchemeOr hsel hsel'⟩

theorem wellFormed_default_colors :
    Default.appearance.colors.norm.WellFormed ∧ Default.appearance.colors.sel.WellFormed := by
  decide

/-- The colours of an appearance that is built. -/
theorem wellFormed_of_buildAppearance {root : Group} {appearance : Appearance}
    (h : buildAppearance root = .ok appearance) :
    appearance.colors.norm.WellFormed ∧ appearance.colors.sel.WellFormed := by
  obtain ⟨found, -, h⟩ := bind_eq_ok_iff.1 h
  cases found with
  | none =>
    obtain rfl := Except.ok.inj h
    exact wellFormed_default_colors
  | some entry =>
    simp only [appearanceOf, bind_eq_ok_iff] at h
    obtain ⟨_, -, _, -, _, -, _, -, _, -, _, -, colors, hcolors, h⟩ := h
    obtain rfl := Except.ok.inj h
    exact wellFormed_of_colorsOr wellFormed_default_colors.1 wellFormed_default_colors.2 hcolors

/-! ## Layouts -/

/-- Inside the list there is a layout at every place, and outside there is none. -/
theorem LayoutRef.isSome_layout?_iff (ref : LayoutRef) :
    ref.layout?.isSome = true ↔ ref.InRange := by
  rw [layout?, isSome_getElem?, InRange]

/-- The reference that a name leads to is inside the list. -/
theorem LayoutRef.inRange_of_ofName? {name : String} {ref : LayoutRef}
    (h : ofName? name = some ref) : ref.InRange := by
  obtain ⟨index, hindex, rfl⟩ := Option.map_eq_some_iff.1 h
  exact (List.findIdx?_eq_some_iff_getElem.1 hindex).1

/-- A list of steps comes to an end if each step does. -/
theorem isSome_mapM_iff {α β : Type} {f : α → Option β} {items : List α} :
    (items.mapM f).isSome = true ↔ ∀ item ∈ items, (f item).isSome = true := by
  induction items with
  | nil => simp
  | cons item rest ih =>
    cases hitem : f item with
    | none => simp [hitem]
    | some first =>
      rw [List.forall_mem_cons, ← ih, List.mapM_cons, hitem]
      cases rest.mapM f <;> simp

/-- What is made of two lists of steps can be made if each step of either comes to an end. -/
theorem isSome_mapM_bind_mapM_iff {α β γ δ ε : Type} {f : α → Option γ} {g : β → Option δ}
    {items : List α} {others : List β} {make : List γ → List δ → ε} :
    (items.mapM f >>= fun front => others.mapM g >>= fun rear => some (make front rear)).isSome =
        true ↔
      (∀ item ∈ items, (f item).isSome = true) ∧ ∀ other ∈ others, (g other).isSome = true := by
  rw [← isSome_mapM_iff, ← isSome_mapM_iff]
  cases items.mapM f <;> cases others.mapM g <;> simp

namespace Argument

variable {arg : Argument}

/-- Where every text can be shown, and just the layouts that are found, an argument can be shown
exactly if it is well formed. -/
theorem isSome_mapM_target_iff {α : Type} {shown? : ArgTarget → Option α}
    (htext : ∀ command, (shown? (.text command)).isSome = true)
    (hlayout : ∀ ref, (shown? (.layout ref)).isSome = ref.layout?.isSome) :
    (arg.target.toList.mapM shown?).isSome = true ↔ arg.WellFormed := by
  rw [isSome_mapM_iff]
  obtain ⟨int, float, _ | command | ref⟩ := arg
  · simp [WellFormed]
  · simp [WellFormed, htext]
  · refine Iff.trans ?_ ref.isSome_layout?_iff
    simp [hlayout]

/-- So it is in a table. -/
theorem isSome_describe?_iff : arg.describe?.isSome = true ↔ arg.WellFormed := by
  have htarget : (arg.target.toList.mapM describeTarget?).isSome = true ↔ arg.WellFormed :=
    isSome_mapM_target_iff (fun _ => rfl) fun _ => Option.isSome_map
  rw [← htarget, describe?]
  cases arg.target.toList.mapM describeTarget? <;> rfl

/-- And in a dump. -/
theorem isSome_form?_iff : arg.form?.isSome = true ↔ arg.WellFormed := by
  have htarget : (arg.target.toList.mapM ArgTarget.form?).isSome = true ↔ arg.WellFormed :=
    isSome_mapM_target_iff (fun _ => rfl) fun _ => Option.isSome_map
  rw [← htarget, form?]
  cases arg.target.toList.mapM ArgTarget.form? <;> rfl

end Argument

namespace Snapshot

variable {snapshot : Snapshot}

/-- A snapshot has a dump exactly if the layouts of its arguments are in the list. -/
theorem isSome_dump?_iff : snapshot.dump?.isSome = true ↔
    (∀ command ∈ snapshot.keys, command.arg.WellFormed) ∧
      ∀ command ∈ snapshot.buttons, command.arg.WellFormed := by
  rw [dump?, Option.isSome_map, form?, isSome_mapM_bind_mapM_iff]
  simp only [KeyCommand.form?, ButtonCommand.form?, Option.isSome_map, Argument.isSome_form?_iff]

/-- So it is with the tables of its bindings. -/
theorem isSome_bindingTables?_iff : snapshot.bindingTables?.isSome = true ↔
    (∀ command ∈ snapshot.keys, command.arg.WellFormed) ∧
      ∀ command ∈ snapshot.buttons, command.arg.WellFormed := by
  rw [bindingTables?, isSome_mapM_bind_mapM_iff]
  simp only [KeyCommand.row?, ButtonCommand.row?, Option.isSome_map, Argument.isSome_describe?_iff]

end Snapshot

/-! ## Bindings and arguments -/

/-- A layout is referred to by its name in the list. -/
theorem wellFormed_of_resolve {text : Option String} {int : Option Int64}
    {float : Option Number.Binary32} {name : Option String} {arg : Argument}
    (h : Argument.resolve text int float name = .ok arg) : arg.WellFormed := by
  unfold Argument.resolve at h
  split at h
  · split at h
    · next ref hfound =>
      obtain rfl := Except.ok.inj h
      exact LayoutRef.inRange_of_ofName? hfound
    · cases h
  · obtain rfl := Except.ok.inj h
    cases text <;> trivial

namespace Entry

variable {entry : Entry}

theorem wellFormed_of_argument {arg : Argument} (h : entry.argument = .ok arg) :
    arg.WellFormed := by
  simp only [argument, bind_eq_ok_iff] at h
  obtain ⟨text, -, int, -, float, -, name, -, h⟩ := h
  split at h
  · next hresolve =>
    obtain rfl := Except.ok.inj h
    exact wellFormed_of_resolve hresolve
  · cases h

/-- A binding of an entry has been read from a text. -/
theorem exists_read_of_binding {α : Type} {read : String → Except Binding.Error (Chord α)}
    {chord : Chord α} (h : entry.binding read = .ok chord) : ∃ text, read text = .ok chord := by
  obtain ⟨text, -, h⟩ := bind_eq_ok_iff.1 h
  split at h
  · next hread =>
    obtain rfl := Except.ok.inj h
    exact ⟨text, hread⟩
  · cases h

end Entry

/-- What is built for a repeated section is built from entries. -/
theorem exists_entry_of_buildEntries {α : Type} {part : Section}
    {build : Entry → Except ConfigError α} {root : Group} {values : List α} {value : α}
    (h : buildEntries part build root = .ok values) (hvalue : value ∈ values) :
    ∃ entry, build entry = .ok value := by
  obtain ⟨found, -, h⟩ := bind_eq_ok_iff.1 h
  obtain ⟨entry, -, hentry⟩ := (mapM_eq_ok h).2 value hvalue
  exact ⟨entry, hentry⟩

theorem wellFormed_of_keyCommandOf {entry : Entry} {command : KeyCommand}
    (h : keyCommandOf entry = .ok command) :
    command.binding.target.code ≠ 0 ∧ command.binding.mods.HasProtocolBits ∧
      command.arg.WellFormed := by
  simp only [keyCommandOf, bind_eq_ok_iff] at h
  obtain ⟨binding, hbinding, action, -, arg, harg, h⟩ := h
  obtain rfl := Except.ok.inj h
  obtain ⟨text, hread⟩ := Entry.exists_read_of_binding hbinding
  exact ⟨code_ne_zero_of_readKey hread, hasProtocolBits_of_readKey hread,
    Entry.wellFormed_of_argument harg⟩

theorem wellFormed_of_buttonCommandOf {entry : Entry} {command : ButtonCommand}
    (h : buttonCommandOf entry = .ok command) :
    command.binding.mods.HasProtocolBits ∧ command.arg.WellFormed := by
  simp only [buttonCommandOf, bind_eq_ok_iff] at h
  obtain ⟨click, -, binding, hbinding, action, -, arg, harg, h⟩ := h
  obtain rfl := Except.ok.inj h
  obtain ⟨text, hread⟩ := Entry.exists_read_of_binding hbinding
  exact ⟨hasProtocolBits_of_readButton hread, Entry.wellFormed_of_argument harg⟩

/-! ## Snapshots -/

/-- Every snapshot that is built is well formed. -/
theorem wellFormed_of_build {root : Group} {snapshot : Snapshot}
    (h : build root = .ok snapshot) : snapshot.WellFormed := by
  obtain ⟨happearance, -, -, -, hkeys, hbuttons⟩ := build_eq_ok_iff.1 h
  obtain ⟨hnorm, hsel⟩ := wellFormed_of_buildAppearance happearance
  have hkey : ∀ command ∈ snapshot.keys, command.binding.target.code ≠ 0 ∧
      command.binding.mods.HasProtocolBits ∧ command.arg.WellFormed := by
    intro command hcommand
    obtain ⟨entry, hentry⟩ := exists_entry_of_buildEntries hkeys hcommand
    exact wellFormed_of_keyCommandOf hentry
  have hbutton : ∀ command ∈ snapshot.buttons,
      command.binding.mods.HasProtocolBits ∧ command.arg.WellFormed := by
    intro command hcommand
    obtain ⟨entry, hentry⟩ := exists_entry_of_buildEntries hbuttons hcommand
    exact wellFormed_of_buttonCommandOf hentry
  exact
    { norm := hnorm
      sel := hsel
      keysym := fun command hcommand => (hkey command hcommand).1
      keyMods := fun command hcommand => (hkey command hcommand).2.1
      keyArg := fun command hcommand => (hkey command hcommand).2.2
      buttonMods := fun command hcommand => (hbutton command hcommand).1
      buttonArg := fun command hcommand => (hbutton command hcommand).2 }

/-- So is the built-in one. -/
theorem wellFormed_default : Default.snapshot.WellFormed where
  norm := wellFormed_default_colors.1
  sel := wellFormed_default_colors.2
  keysym := by decide
  keyMods := by decide
  keyArg := by decide
  buttonMods := by decide
  buttonArg := by decide

/-- The current snapshot is well formed at any time, in a life from the built-in configuration or
from a first load on, whatever is loaded and whether it succeeds or not. So it has a dump and
tables of its bindings: no layout is looked for outside the list. -/
theorem current_snapshot_wellFormed [Parsers] {life : Lifecycle}
    (hlife : life = .standard ∨ ∃ view path, Lifecycle.ofFile view path = .ok life)
    (requests : List (View × Lifecycle.Request)) :
    let current := (life.run requests).snapshot
    current.WellFormed ∧ (∃ text, current.dump? = some text) ∧
      ∃ tables, current.bindingTables? = some tables := by
  intro current
  have hcurrent : current.WellFormed :=
    Lifecycle.snapshot_run_of_build wellFormed_default
      (fun root snapshot hbuild => wellFormed_of_build hbuild) hlife requests
  have hargs := And.intro hcurrent.keyArg hcurrent.buttonArg
  refine ⟨hcurrent, ?_, ?_⟩
  · exact Option.isSome_iff_exists.1 (Snapshot.isSome_dump?_iff.2 hargs)
  · exact Option.isSome_iff_exists.1 (Snapshot.isSome_bindingTables?_iff.2 hargs)

open scoped Parsers

/-- A file with one key that sets a layout is loaded, and then it vanishes. -/
theorem current_snapshot_wellFormed_vanished_file :
    let file : View :=
      ⟨fun _ => .ok "key:\n- bind: super+F1\n  func: setlayout\n  layout: monocle\n",
        fun _ => true, fun _ => none⟩
    let nothing : View := ⟨fun _ => .error .notFound, fun _ => false, fun _ => none⟩
    let life := Lifecycle.standard.run [(file, .load ⟨"main.yaml"⟩), (nothing, .reload)]
    life.snapshot.keys.map KeyCommand.arg = [.ofLayout .monocle] ∧ life.snapshot.WellFormed ∧
      ∃ text, life.snapshot.dump? = some text := by
  intro file nothing life
  have hkeys : life.snapshot.keys.map KeyCommand.arg = [.ofLayout .monocle] := by decide +kernel
  obtain ⟨hcurrent, hdump, -⟩ := current_snapshot_wellFormed (Or.inl rfl)
    [(file, .load ⟨"main.yaml"⟩), (nothing, .reload)]
  exact ⟨hkeys, hcurrent, hdump⟩

end TilingConfig
