import TilingConfig.Proofs.Address
import TilingConfig.Proofs.Snapshot.Success

/-!
# Settings and their fields

The look and the layout of a snapshot are made up of fields, and for each field there is one
setting, in the group of its section or in the group of colours inside that. In a snapshot
that is built, a field holds what the value of its setting means, or the default where the
setting is not given.
-/

namespace TilingConfig

open TilingConfig.CoreInstances TilingConfig.Number

/-- The settings that stand for one field each. -/
inductive Setting where
  | borderpx
  | snap
  | gappx
  | showbar
  | topbar
  | fonts
  /-- The scheme of unfocused elements, among the colours. -/
  | norm
  /-- The scheme of focused elements, among the colours. -/
  | sel
  | mfact
  | nmaster
  | resizehints
  | lockfullscreen
  | refreshrate
  deriving DecidableEq, Repr

/-- What a field can hold. -/
inductive FieldValue where
  | number (n : UInt32)
  | flag (b : Bool)
  | texts (texts : List String)
  | scheme (scheme : ColorScheme)
  | factor (x : Binary32)
  deriving DecidableEq, Repr

/-- The scheme of a name in the group of colours. -/
def Group.scheme? (group : Group) (name : String) : Option Value :=
  ((group.get? "colors").bind Value.group?).bind fun colors => colors.get? name

namespace Value

/-- A whole number that fits 32 bits without a sign. -/
def unsigned? : Value → Option UInt32
  | int i =>
    if 0 ≤ i.toInt ∧ i.toInt < 2 ^ (32 : Nat) then some (UInt32.ofNat i.toInt.toNat) else none
  | _ => none

/-- A list of texts. -/
def texts? : Value → Option (List String)
  | array items => (textsOf items).toOption
  | _ => none

/-- A list of three colours. -/
def scheme? (value : Value) : Option ColorScheme :=
  match value.texts? with
  | some [fg, bg, border] =>
    if [fg, bg, border].all isColor then some ⟨fg, bg, border⟩ else none
  | _ => none

/-- A number between the bounds of the master-area factor, in the stored format. -/
def factor? (value : Value) : Option Binary32 :=
  match value.float? with
  | some x => if x.le minMasterFactor || maxMasterFactor.le x then none else some x.narrow
  | none => none

end Value

namespace Setting

/-- The section of a setting. -/
def part : Setting → Section
  | borderpx | snap | gappx | showbar | topbar | fonts | norm | sel => .appearance
  | mfact | nmaster | resizehints | lockfullscreen | refreshrate => .layout

/-- The value that the group of its section gives a setting. -/
def given? (group : Group) : Setting → Option Value
  | borderpx => group.get? "borderpx"
  | snap => group.get? "snap"
  | gappx => group.get? "gappx"
  | showbar => group.get? "showbar"
  | topbar => group.get? "topbar"
  | fonts => group.get? "fonts"
  | norm => group.scheme? "norm"
  | sel => group.scheme? "sel"
  | mfact => group.get? "mfact"
  | nmaster => group.get? "nmaster"
  | resizehints => group.get? "resizehints"
  | lockfullscreen => group.get? "lockfullscreen"
  | refreshrate => group.get? "refreshrate"

/-- What a value means for the field of a setting, if it has the type and the range of it. -/
def meaning? (value : Value) : Setting → Option FieldValue
  | borderpx | snap | gappx | nmaster | refreshrate => value.unsigned?.map .number
  | showbar | topbar | resizehints | lockfullscreen => value.bool?.map .flag
  | fonts => value.texts?.map .texts
  | norm | sel => value.scheme?.map .scheme
  | mfact => value.factor?.map .factor

/-- The field of a setting. -/
def field (snapshot : Snapshot) : Setting → FieldValue
  | borderpx => .number snapshot.appearance.borderpx
  | snap => .number snapshot.appearance.snap
  | gappx => .number snapshot.appearance.gappx
  | showbar => .flag snapshot.appearance.showbar
  | topbar => .flag snapshot.appearance.topbar
  | fonts => .texts snapshot.appearance.fonts
  | norm => .scheme snapshot.appearance.colors.norm
  | sel => .scheme snapshot.appearance.colors.sel
  | mfact => .factor snapshot.layout.mfact
  | nmaster => .number snapshot.layout.nmaster
  | resizehints => .flag snapshot.layout.resizehints
  | lockfullscreen => .flag snapshot.layout.lockfullscreen
  | refreshrate => .number snapshot.layout.refreshrate

/-- The field of a setting in every snapshot that does without it. -/
def default (setting : Setting) : FieldValue := setting.field Default.snapshot

end Setting

/-! ## Readers -/

/-- A list of texts is read as its elements, all of which are texts. -/
theorem textsOf_eq_ok_iff {items : List Value} {texts : List String} :
    textsOf items = .ok texts ↔ items = texts.map .str := by
  induction items generalizing texts with
  | nil => cases texts <;> simp [textsOf]
  | cons first rest ih =>
    cases first with
    | str text =>
      rw [textsOf, map_eq_ok_iff]
      simp only [ih]
      constructor
      · rintro ⟨others, rfl, rfl⟩
        rfl
      · intro h
        obtain ⟨text', others, rfl, hfirst, rfl⟩ := List.map_eq_cons_iff.1 h.symm
        exact ⟨others, rfl, by rw [Value.str.inj hfirst]⟩
    | _ =>
      simp only [textsOf, reduceCtorEq, false_iff]
      intro h
      obtain ⟨_, _, -, hfirst, -⟩ := List.map_eq_cons_iff.1 h.symm
      cases hfirst

namespace Value

variable {value : Value}

theorem int?_eq_some_iff {i : Int64} : value.int? = some i ↔ value = .int i := by
  cases value <;> simp [int?]

theorem str?_eq_some_iff {text : String} : value.str? = some text ↔ value = .str text := by
  cases value <;> simp [str?]

theorem group?_eq_some_iff {group : Group} : value.group? = some group ↔ value = .group group := by
  cases value <;> simp [group?]

theorem texts?_eq_some_iff {texts : List String} :
    value.texts? = some texts ↔ value = .array (texts.map .str) := by
  cases value <;> simp [texts?, toOption_eq_some_iff, textsOf_eq_ok_iff]

end Value

section Readers

variable {group : Group} {entry : Entry} {name : String}

/-- A field that is not given is not read, and one that is given is read as what it is. -/
theorem Group.field?_eq_ok_iff {α : Type} {expected : Kind} {take : Value → Option α}
    {result : Option α} : group.field? name expected take = .ok result ↔
      (group.get? name).map take = result.map some := by
  rw [field?]
  cases group.get? name with
  | none => cases result <;> simp
  | some value => cases htake : take value <;> cases result <;> simp [htake]

theorem Group.strings?_eq_ok_iff {result : Option (List String)} :
    group.strings? name = .ok result ↔
      (group.get? name).map Value.texts? = result.map some := by
  rw [strings?]
  cases group.get? name with
  | none => cases result <;> simp
  | some value =>
    cases value with
    | array items =>
      cases htexts : textsOf items <;> cases result <;>
        simp [Value.texts?, Except.map, Except.toOption, htexts]
    | _ => cases result <;> simp [Value.texts?]

/-- A value that is checked after it has been read is read as what passes the check. -/
theorem bind_eq_ok_iff_of_read {α β γ : Type} {given : Option Value} {take : Value → Option α}
    {check : Value → Option β} (wrap : Option β → γ) {read : Except ConfigError (Option α)}
    {next : Option α → Except ConfigError γ} {result : γ}
    (hread : ∀ found, read = .ok found ↔ given.map take = found.map some)
    (hnone : next none = .ok (wrap none))
    (hrefused : ∀ value, take value = none → check value = none)
    (htaken : ∀ value x, take value = some x →
      (next (some x) = .ok result ↔ ∃ y, check value = some y ∧ wrap (some y) = result)) :
    read >>= next = .ok result ↔
      ∃ found, given.map check = found.map some ∧ wrap found = result := by
  simp only [bind_eq_ok_iff, hread, Option.exists]
  cases given with
  | none => simp [hnone]
  | some value =>
    cases htake : take value with
    | none => simp [htake, hrefused value htake]
    | some x => simp [htake, htaken value x htake]

namespace Entry

theorem bool?_eq_ok_iff {result : Option Bool} : entry.bool? name = .ok result ↔
    (entry.group.get? name).map Value.bool? = result.map some :=
  typed_eq_ok_iff.trans Group.field?_eq_ok_iff

theorem int?_eq_ok_iff {result : Option Int64} : entry.int? name = .ok result ↔
    (entry.group.get? name).map Value.int? = result.map some :=
  typed_eq_ok_iff.trans Group.field?_eq_ok_iff

theorem float?_eq_ok_iff {result : Option Binary64} : entry.float? name = .ok result ↔
    (entry.group.get? name).map Value.float? = result.map some :=
  typed_eq_ok_iff.trans Group.field?_eq_ok_iff

theorem str?_eq_ok_iff {result : Option String} : entry.str? name = .ok result ↔
    (entry.group.get? name).map Value.str? = result.map some :=
  typed_eq_ok_iff.trans Group.field?_eq_ok_iff

theorem strings?_eq_ok_iff {result : Option (List String)} : entry.strings? name = .ok result ↔
    (entry.group.get? name).map Value.texts? = result.map some :=
  typed_eq_ok_iff.trans Group.strings?_eq_ok_iff

theorem uint?_eq_ok_iff {result : Option UInt32} : entry.uint? name = .ok result ↔
    (entry.group.get? name).map Value.unsigned? = result.map some := by
  refine Iff.trans (bind_eq_ok_iff_of_read id (fun _ => int?_eq_ok_iff) rfl ?_ ?_) exists_eq_right
  · intro value hvalue
    cases value <;> first | rfl | cases hvalue
  · intro value i hvalue
    obtain rfl := Value.int?_eq_some_iff.1 hvalue
    dsimp only [Value.unsigned?]
    split <;> simp

end Entry

theorem masterFactor?_eq_ok_iff_get? {result : Option Binary32} :
    masterFactor? entry = .ok result ↔
      (entry.group.get? "mfact").map Value.factor? = result.map some := by
  refine Iff.trans (bind_eq_ok_iff_of_read id (fun _ => Entry.float?_eq_ok_iff) rfl ?_ ?_)
    exists_eq_right
  · intro value hvalue
    rw [Value.factor?, hvalue]
  · intro value x hvalue
    simp only [Value.factor?, hvalue]
    split <;> simp

/-- Three colours make a scheme. -/
theorem colorScheme_eq_ok_iff {value : Value} {field : String} {colors : List String}
    {scheme : ColorScheme} (hvalue : value.texts? = some colors) :
    colorScheme entry field colors = .ok scheme ↔ value.scheme? = some scheme := by
  unfold colorScheme Value.scheme?
  rw [hvalue]
  split
  · next fg bg border =>
    cases hfound : [fg, bg, border].find? fun color => !isColor color with
    | some color =>
      have hall : ¬ [fg, bg, border].all isColor = true := by
        intro h
        simp_all
      simp [hall]
    | none =>
      have hall : [fg, bg, border].all isColor = true := by simpa using hfound
      simp [hall]
  · next hcount =>
    simp only [reduceCtorEq, false_iff]
    split
    · next heq => exact absurd (Option.some.inj heq) (hcount _ _ _)
    · simp

/-- A scheme is read, or the old one stays. -/
theorem colorSchemeOr_eq_ok_iff {old scheme : ColorScheme} :
    colorSchemeOr entry group name old = .ok scheme ↔
      ∃ found : Option ColorScheme, (group.get? name).map Value.scheme? = found.map some ∧
        found.getD old = scheme := by
  refine bind_eq_ok_iff_of_read (·.getD old)
    (fun _ => Entry.typed_eq_ok_iff.trans Group.strings?_eq_ok_iff) rfl ?_ ?_
  · intro value hvalue
    rw [Value.scheme?, hvalue]
  · intro value colors hvalue
    simp only [colorScheme_eq_ok_iff hvalue, Option.getD_some, exists_eq_right]

/-- The schemes are those of the last group of colours. -/
theorem Group.scheme?_eq : group.scheme? name = (group.inner "colors").get? name := by
  rw [scheme?, inner]
  cases (group.get? "colors").bind Value.group? <;> rfl

/-- Both schemes are read, or the old ones stay. -/
theorem colorsOr_eq_ok_iff {old colors : Colors} : colorsOr entry old = .ok colors ↔
    entry.group.GroupOrAbsent "colors" ∧ ∃ norm sel : Option ColorScheme,
      (entry.group.scheme? "norm").map Value.scheme? = norm.map some ∧
      (entry.group.scheme? "sel").map Value.scheme? = sel.map some ∧
      ⟨norm.getD old.norm, sel.getD old.sel⟩ = colors := by
  simp only [colorsOr, bind_eq_ok_iff, Entry.typed_eq_ok_iff, Group.group?, Group.field?_eq_ok_iff,
    Group.GroupOrAbsent, Group.scheme?]
  rw [Option.exists]
  cases entry.group.get? "colors" with
  | none =>
    constructor
    · rintro (⟨-, h⟩ | ⟨_, h, -⟩)
      · exact ⟨fun _ hvalue => (by cases hvalue), none, none, rfl, rfl, Except.ok.inj h⟩
      · cases h
    · rintro ⟨-, norm, sel, hnorm, hsel, rfl⟩
      obtain rfl := Option.map_eq_none_iff.1 hnorm.symm
      obtain rfl := Option.map_eq_none_iff.1 hsel.symm
      exact Or.inl ⟨rfl, rfl⟩
  | some value =>
    cases hvalue : value.group? with
    | none =>
      have hno : ∀ inner : Group, value ≠ .group inner := fun inner h =>
        absurd (Value.group?_eq_some_iff.2 h) (by simp [hvalue])
      simp [hvalue, hno]
    | some inner =>
      obtain rfl := Value.group?_eq_some_iff.1 hvalue
      simp only [Value.group?, Option.bind_some, colorSchemeOr_eq_ok_iff, bind_eq_ok_iff]
      constructor
      · rintro (⟨h, -⟩ | ⟨found, hfound, _, ⟨norm, hnorm, rfl⟩, _, ⟨sel, hsel, rfl⟩, hcolors⟩)
        · cases h
        · obtain rfl := Option.some.inj (Option.some.inj hfound)
          exact ⟨by simp, norm, sel, hnorm, hsel, Except.ok.inj hcolors⟩
      · rintro ⟨-, norm, sel, hnorm, hsel, rfl⟩
        exact Or.inr ⟨inner, rfl, _, ⟨norm, hnorm, rfl⟩, _, ⟨sel, hsel, rfl⟩, rfl⟩

end Readers

/-! ## The fields of a section -/

namespace Setting

/-- The field of a setting holds what the group gives it, or the default. -/
def Holds (group : Group) (snapshot : Snapshot) (setting : Setting) : Prop :=
  setting.given? group = none ∧ setting.field snapshot = setting.default ∨
    ∃ value, setting.given? group = some value ∧
      setting.meaning? value = some (setting.field snapshot)

theorem Holds.of_none {group : Group} {snapshot : Snapshot} {setting : Setting}
    (h : setting.Holds group snapshot) (hgiven : setting.given? group = none) :
    setting.field snapshot = setting.default := by
  rcases h with ⟨-, h⟩ | ⟨value, hvalue, -⟩
  · exact h
  · rw [hgiven] at hvalue
    cases hvalue

theorem Holds.of_some {group : Group} {snapshot : Snapshot} {setting : Setting} {value : Value}
    (h : setting.Holds group snapshot) (hgiven : setting.given? group = some value) :
    setting.meaning? value = some (setting.field snapshot) := by
  rcases h with ⟨hnone, -⟩ | ⟨value', hvalue, h⟩
  · rw [hgiven] at hnone
    cases hnone
  · obtain rfl := Option.some.inj (hgiven.symm.trans hvalue)
    exact h

/-- Groups that give a setting the same value give its field the same content. -/
theorem Holds.field_eq {group other : Group} {snapshot next : Snapshot} {setting : Setting}
    (h : setting.Holds group snapshot) (hnext : setting.Holds other next)
    (hgiven : setting.given? other = setting.given? group) :
    setting.field next = setting.field snapshot := by
  rcases h with ⟨hnone, hfield⟩ | ⟨value, hvalue, hmeaning⟩
  · rw [hnext.of_none (hgiven.trans hnone), hfield]
  · exact Option.some.inj ((hnext.of_some (hgiven.trans hvalue)).symm.trans hmeaning)

/-- So it is with a field whose value was read, with the default in its place. -/
theorem holds_of_read {group : Group} {snapshot : Snapshot} {setting : Setting} {α : Type}
    {take : Value → Option α} {wrap : α → FieldValue} {result : Option α} {old : α}
    (hread : (setting.given? group).map take = result.map some)
    (hmeaning : ∀ value, setting.meaning? value = (take value).map wrap)
    (hfield : setting.field snapshot = wrap (result.getD old)) (hold : setting.default = wrap old) :
    setting.Holds group snapshot := by
  cases hgiven : setting.given? group with
  | none =>
    rw [hgiven] at hread
    obtain rfl := Option.map_eq_none_iff.1 hread.symm
    exact Or.inl ⟨hgiven, hfield.trans hold.symm⟩
  | some value =>
    rw [hgiven] at hread
    obtain ⟨x, rfl, hx⟩ := Option.map_eq_some_iff.1 hread.symm
    refine Or.inr ⟨value, hgiven, ?_⟩
    rw [hmeaning, ← hx, hfield]
    rfl

/-- A value that is given for a setting has the type and the range of its field. -/
def Fits (group : Group) (setting : Setting) : Prop :=
  ∀ value, setting.given? group = some value → (setting.meaning? value).isSome

theorem Holds.fits {group : Group} {snapshot : Snapshot} {setting : Setting}
    (h : setting.Holds group snapshot) : setting.Fits group := fun _ hvalue =>
  Option.isSome_of_eq_some (h.of_some hvalue)

/-- What fits is read. -/
theorem Fits.exists_read {group : Group} {setting : Setting} {α : Type}
    {take : Value → Option α} {wrap : α → FieldValue} (h : setting.Fits group)
    (hmeaning : ∀ value, setting.meaning? value = (take value).map wrap) :
    ∃ result : Option α, (setting.given? group).map take = result.map some := by
  cases hgiven : setting.given? group with
  | none => exact ⟨none, rfl⟩
  | some value =>
    have hfits := h value hgiven
    rw [hmeaning, Option.isSome_map] at hfits
    obtain ⟨x, hx⟩ := Option.isSome_iff_exists.1 hfits
    exact ⟨some x, congrArg some hx⟩

/-- The fields of an appearance hold what its group gives. -/
theorem holds_of_appearanceOf {group : Group} {snapshot : Snapshot}
    (h : appearanceOf ⟨group, .appearance, none⟩ = .ok snapshot.appearance) {setting : Setting}
    (hpart : setting.part = .appearance) : setting.Holds group snapshot := by
  obtain ⟨appearance, layout, tags, rules, keys, buttons⟩ := snapshot
  simp only [appearanceOf, bind_eq_ok_iff, Entry.uint?_eq_ok_iff, Entry.bool?_eq_ok_iff,
    Entry.strings?_eq_ok_iff, colorsOr_eq_ok_iff] at h
  obtain ⟨borderpx, hborderpx, snap, hsnap, gappx, hgappx, showbar, hshowbar, topbar, htopbar,
    fonts, hfonts, _, ⟨-, norm, sel, hnorm, hsel, rfl⟩, h⟩ := h
  obtain rfl := Except.ok.inj h
  cases setting with
  | borderpx => exact holds_of_read hborderpx (fun _ => rfl) rfl rfl
  | snap => exact holds_of_read hsnap (fun _ => rfl) rfl rfl
  | gappx => exact holds_of_read hgappx (fun _ => rfl) rfl rfl
  | showbar => exact holds_of_read hshowbar (fun _ => rfl) rfl rfl
  | topbar => exact holds_of_read htopbar (fun _ => rfl) rfl rfl
  | fonts => exact holds_of_read hfonts (fun _ => rfl) rfl rfl
  | norm => exact holds_of_read hnorm (fun _ => rfl) rfl rfl
  | sel => exact holds_of_read hsel (fun _ => rfl) rfl rfl
  | mfact | nmaster | resizehints | lockfullscreen | refreshrate => cases hpart

/-- The fields of the layout settings hold what their group gives. -/
theorem holds_of_layoutSettingsOf {group : Group} {snapshot : Snapshot}
    (h : layoutSettingsOf ⟨group, .layout, none⟩ = .ok snapshot.layout) {setting : Setting}
    (hpart : setting.part = .layout) : setting.Holds group snapshot := by
  obtain ⟨appearance, layout, tags, rules, keys, buttons⟩ := snapshot
  simp only [layoutSettingsOf, bind_eq_ok_iff, Entry.uint?_eq_ok_iff, Entry.bool?_eq_ok_iff,
    masterFactor?_eq_ok_iff_get?] at h
  obtain ⟨mfact, hmfact, nmaster, hnmaster, resizehints, hresizehints, lockfullscreen,
    hlockfullscreen, refreshrate, hrefreshrate, h⟩ := h
  obtain rfl := Except.ok.inj h
  cases setting with
  | mfact => exact holds_of_read hmfact (fun _ => rfl) rfl rfl
  | nmaster => exact holds_of_read hnmaster (fun _ => rfl) rfl rfl
  | resizehints => exact holds_of_read hresizehints (fun _ => rfl) rfl rfl
  | lockfullscreen => exact holds_of_read hlockfullscreen (fun _ => rfl) rfl rfl
  | refreshrate => exact holds_of_read hrefreshrate (fun _ => rfl) rfl rfl
  | borderpx | snap | gappx | showbar | topbar | fonts | norm | sel => cases hpart

end Setting

/-- An appearance is read exactly if the colours are a group and every value fits. -/
theorem exists_appearanceOf_iff {group : Group} :
    (∃ appearance, appearanceOf ⟨group, .appearance, none⟩ = .ok appearance) ↔
      group.GroupOrAbsent "colors" ∧ ∀ setting : Setting, setting.part = .appearance →
        setting.Fits group := by
  constructor
  · rintro ⟨appearance, h⟩
    refine ⟨?_, fun setting hpart => ?_⟩
    · simp only [appearanceOf, bind_eq_ok_iff, colorsOr_eq_ok_iff] at h
      obtain ⟨_, -, _, -, _, -, _, -, _, -, _, -, _, ⟨hcolors, -⟩, -⟩ := h
      exact hcolors
    · have hholds : setting.Holds group { Default.snapshot with appearance := appearance } :=
        Setting.holds_of_appearanceOf h hpart
      exact hholds.fits
  · rintro ⟨hcolors, hfits⟩
    obtain ⟨_, hborderpx⟩ := (hfits .borderpx rfl).exists_read fun _ => rfl
    obtain ⟨_, hsnap⟩ := (hfits .snap rfl).exists_read fun _ => rfl
    obtain ⟨_, hgappx⟩ := (hfits .gappx rfl).exists_read fun _ => rfl
    obtain ⟨_, hshowbar⟩ := (hfits .showbar rfl).exists_read fun _ => rfl
    obtain ⟨_, htopbar⟩ := (hfits .topbar rfl).exists_read fun _ => rfl
    obtain ⟨_, hfonts⟩ := (hfits .fonts rfl).exists_read fun _ => rfl
    obtain ⟨norm, hnorm⟩ := (hfits .norm rfl).exists_read fun _ => rfl
    obtain ⟨sel, hsel⟩ := (hfits .sel rfl).exists_read fun _ => rfl
    simp only [appearanceOf, bind_eq_ok_iff, Entry.uint?_eq_ok_iff, Entry.bool?_eq_ok_iff,
      Entry.strings?_eq_ok_iff, colorsOr_eq_ok_iff]
    exact ⟨_, _, hborderpx, _, hsnap, _, hgappx, _, hshowbar, _, htopbar, _, hfonts, _,
      ⟨hcolors, norm, sel, hnorm, hsel, rfl⟩, rfl⟩

/-- Layout settings are read exactly if every value fits. -/
theorem exists_layoutSettingsOf_iff {group : Group} :
    (∃ layout, layoutSettingsOf ⟨group, .layout, none⟩ = .ok layout) ↔
      ∀ setting : Setting, setting.part = .layout → setting.Fits group := by
  constructor
  · rintro ⟨layout, h⟩ setting hpart
    have hholds : setting.Holds group { Default.snapshot with layout := layout } :=
      Setting.holds_of_layoutSettingsOf h hpart
    exact hholds.fits
  · intro hfits
    obtain ⟨_, hmfact⟩ := (hfits .mfact rfl).exists_read fun _ => rfl
    obtain ⟨_, hnmaster⟩ := (hfits .nmaster rfl).exists_read fun _ => rfl
    obtain ⟨_, hresizehints⟩ := (hfits .resizehints rfl).exists_read fun _ => rfl
    obtain ⟨_, hlockfullscreen⟩ := (hfits .lockfullscreen rfl).exists_read fun _ => rfl
    obtain ⟨_, hrefreshrate⟩ := (hfits .refreshrate rfl).exists_read fun _ => rfl
    simp only [layoutSettingsOf, bind_eq_ok_iff, Entry.uint?_eq_ok_iff, Entry.bool?_eq_ok_iff,
      masterFactor?_eq_ok_iff_get?]
    exact ⟨_, _, hmfact, _, hnmaster, _, hresizehints, _, hlockfullscreen, _, hrefreshrate, rfl⟩

/-! ## The fields of a build -/

/-- A section that is given once is built from its last group, and one that is absent as from a
group without settings. -/
theorem onlySection?_bind_eq_ok_iff {root : Group} (part : Section) {α : Type}
    {build : Option Entry → Except ConfigError α} {result : α}
    (hnone : build none = build (some ⟨[], part, none⟩)) :
    onlySection? root part >>= build = .ok result ↔
      root.GroupOrAbsent part.name ∧
        build (some ⟨root.inner part.name, part, none⟩) = .ok result := by
  rw [onlySection?, Group.GroupOrAbsent, Group.inner]
  cases root.get? part.name with
  | none => simp [Except.bind, hnone, Bind.bind]
  | some value => cases value <;> simp [Except.bind, Value.group?, Bind.bind]

theorem buildAppearance_eq_ok_iff {root : Group} {appearance : Appearance} :
    buildAppearance root = .ok appearance ↔
      root.GroupOrAbsent "appearance" ∧
        appearanceOf ⟨root.inner "appearance", .appearance, none⟩ = .ok appearance :=
  onlySection?_bind_eq_ok_iff .appearance rfl

theorem buildLayout_eq_ok_iff {root : Group} {layout : LayoutSettings} :
    buildLayout root = .ok layout ↔
      root.GroupOrAbsent "layout" ∧
        layoutSettingsOf ⟨root.inner "layout", .layout, none⟩ = .ok layout :=
  onlySection?_bind_eq_ok_iff .layout rfl

namespace Setting

/-- In a snapshot that is built, every field holds what the last group of its section gives, or the
default. -/
theorem holds_inner_of_build {root : Group} {snapshot : Snapshot}
    (h : build root = .ok snapshot) (setting : Setting) :
    setting.Holds (root.inner setting.part.name) snapshot := by
  obtain ⟨happearance, hlayout, -⟩ := build_eq_ok_iff.1 h
  cases hpart : setting.part with
  | appearance => exact holds_of_appearanceOf (buildAppearance_eq_ok_iff.1 happearance).2 hpart
  | layout => exact holds_of_layoutSettingsOf (buildLayout_eq_ok_iff.1 hlayout).2 hpart
  | tags | rule | key | button => cases setting <;> cases hpart

/-- In a snapshot that is built, the fields of a section that is given hold what the last group of
it gives. -/
theorem holds_of_build {root group : Group} {snapshot : Snapshot}
    (h : build root = .ok snapshot) {setting : Setting}
    (hgroup : root.get? setting.part.name = some (.group group)) :
    setting.Holds group snapshot := by
  have hholds := holds_inner_of_build h setting
  rwa [Group.inner, hgroup] at hholds

end Setting

end TilingConfig
