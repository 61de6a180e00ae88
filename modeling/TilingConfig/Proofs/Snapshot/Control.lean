import TilingConfig.Proofs.Snapshot.Field
import TilingConfig.Proofs.Snapshot.MasterFactor
import TilingConfig.Proofs.Snapshot.WellFormed

/-!
# Each setting controls its own field

A setting of the look or the layout that is added behind the others is the last of its name,
so the field that it stands for holds what it means. All other look-ups are as before, and
so are all other fields, and the tags, rules, keys and buttons. A whole number that does not
fit fails the build instead, and a field whose setting is not given has its default.
-/

namespace TilingConfig

open TilingConfig.CoreInstances TilingConfig.Number

namespace Setting

/-! ## Where settings stand and what they mean -/

/-- The names of the groups that lead to a setting. -/
def path : Setting → List String
  | borderpx | snap | gappx | showbar | topbar | fonts => ["appearance"]
  | norm | sel => ["appearance", "colors"]
  | mfact | nmaster | resizehints | lockfullscreen | refreshrate => ["layout"]

/-- The name of a setting in its group. -/
def name : Setting → String
  | borderpx => "borderpx"
  | snap => "snap"
  | gappx => "gappx"
  | showbar => "showbar"
  | topbar => "topbar"
  | fonts => "fonts"
  | norm => "norm"
  | sel => "sel"
  | mfact => "mfact"
  | nmaster => "nmaster"
  | resizehints => "resizehints"
  | lockfullscreen => "lockfullscreen"
  | refreshrate => "refreshrate"

/-- The settings whose fields are whole numbers. -/
def numbers : List Setting := [borderpx, snap, gappx, nmaster, refreshrate]

/-- The settings whose fields are truth values. -/
def flags : List Setting := [showbar, topbar, resizehints, lockfullscreen]

/-- A value has the type and the range of a setting, and means this content of its field. Nothing is
cut off, and only the master-area factor is rounded. -/
inductive Means : Setting → Value → FieldValue → Prop
  | number {setting : Setting} {i : Int64} {n : UInt32} (isNumber : setting ∈ numbers)
      (same : (n.toNat : Int) = i.toInt) : Means setting (.int i) (.number n)
  | flag {setting : Setting} (b : Bool) (isFlag : setting ∈ flags) :
      Means setting (.bool b) (.flag b)
  | texts (texts : List String) : Means fonts (.array (texts.map .str)) (.texts texts)
  | scheme {setting : Setting} (scheme : ColorScheme) (isScheme : setting ∈ [norm, sel])
      (colors : scheme.WellFormed) :
      Means setting (.array [.str scheme.fg, .str scheme.bg, .str scheme.border]) (.scheme scheme)
  | factor {value : Value} {x : Binary64} (isNumber : value.float? = some x) (inside : Inside x) :
      Means mfact value (.factor x.narrow)

/-- The thirteen fields hold what they held, apart from that of one setting, which holds a given
content; and so do the tags, the rules and the commands. -/
structure Changes (setting : Setting) (content : FieldValue) (old new : Snapshot) : Prop where
  field : setting.field new = content
  others : ∀ other ≠ setting, other.field new = other.field old
  tags : new.tags = old.tags
  rules : new.rules = old.rules
  keys : new.keys = old.keys
  buttons : new.buttons = old.buttons

/-- The thirteen fields, the tags, the rules and the commands are all that a snapshot has. -/
theorem snapshot_eq_of_field_eq {snapshot other : Snapshot}
    (hfield : ∀ setting : Setting, setting.field snapshot = setting.field other)
    (htags : snapshot.tags = other.tags) (hrules : snapshot.rules = other.rules)
    (hkeys : snapshot.keys = other.keys) (hbuttons : snapshot.buttons = other.buttons) :
    snapshot = other := by
  obtain ⟨⟨borderpx, snap, showbar, topbar, gappx, fonts, ⟨norm, sel⟩⟩,
    ⟨mfact, nmaster, resizehints, lockfullscreen, refreshrate⟩, tags, rules, keys, buttons⟩ :=
    snapshot
  obtain rfl := FieldValue.number.inj (hfield .borderpx)
  obtain rfl := FieldValue.number.inj (hfield .snap)
  obtain rfl := FieldValue.number.inj (hfield .gappx)
  obtain rfl := FieldValue.flag.inj (hfield .showbar)
  obtain rfl := FieldValue.flag.inj (hfield .topbar)
  obtain rfl := FieldValue.texts.inj (hfield .fonts)
  obtain rfl := FieldValue.scheme.inj (hfield .norm)
  obtain rfl := FieldValue.scheme.inj (hfield .sel)
  obtain rfl := FieldValue.factor.inj (hfield .mfact)
  obtain rfl := FieldValue.number.inj (hfield .nmaster)
  obtain rfl := FieldValue.flag.inj (hfield .resizehints)
  obtain rfl := FieldValue.flag.inj (hfield .lockfullscreen)
  obtain rfl := FieldValue.number.inj (hfield .refreshrate)
  obtain rfl := htags
  obtain rfl := hrules
  obtain rfl := hkeys
  obtain rfl := hbuttons
  rfl

/-- So there is one snapshot at most that differs from an old one in a given field only. -/
theorem Changes.unique {setting : Setting} {content : FieldValue} {old new other : Snapshot}
    (h : setting.Changes content old new) (hother : setting.Changes content old other) :
    other = new := by
  refine snapshot_eq_of_field_eq (fun field => ?_) (hother.tags.trans h.tags.symm)
    (hother.rules.trans h.rules.symm) (hother.keys.trans h.keys.symm)
    (hother.buttons.trans h.buttons.symm)
  by_cases hfield : field = setting
  · subst hfield
    exact hother.field.trans h.field.symm
  · exact (hother.others field hfield).trans (h.others field hfield).symm

theorem unsigned?_eq_some {i : Int64} {n : UInt32} (h : (n.toNat : Int) = i.toInt) :
    (Value.int i).unsigned? = some n := by
  have hn := n.toNat_lt
  have hnat : i.toInt.toNat = n.toNat := by omega
  rw [Value.unsigned?, if_pos (by omega), hnat, UInt32.ofNat_toNat]

theorem scheme?_eq_some {scheme : ColorScheme} (h : scheme.WellFormed) :
    (Value.array [.str scheme.fg, .str scheme.bg, .str scheme.border]).scheme? = some scheme := by
  have htexts : (Value.array [.str scheme.fg, .str scheme.bg, .str scheme.border]).texts? =
      some [scheme.fg, scheme.bg, scheme.border] := rfl
  have hcolors : [scheme.fg, scheme.bg, scheme.border].all isColor = true :=
    List.all_eq_true.2 fun color hcolor => isColor_iff.2 (h color hcolor)
  simp only [Value.scheme?, htexts, hcolors, if_true]

/-- The builder reads what a value means. -/
theorem Means.meaning?_eq {setting : Setting} {value : Value} {content : FieldValue}
    (h : setting.Means value content) : setting.meaning? value = some content := by
  cases h with
  | number isNumber same =>
    simp only [numbers, List.mem_cons, List.not_mem_nil, or_false] at isNumber
    rcases isNumber with rfl | rfl | rfl | rfl | rfl <;>
      exact congrArg (Option.map FieldValue.number) (unsigned?_eq_some same)
  | flag b isFlag =>
    simp only [flags, List.mem_cons, List.not_mem_nil, or_false] at isFlag
    rcases isFlag with rfl | rfl | rfl | rfl <;> rfl
  | texts texts =>
    exact congrArg (Option.map FieldValue.texts) (Value.texts?_eq_some_iff.2 rfl)
  | scheme scheme isScheme colors =>
    simp only [List.mem_cons, List.not_mem_nil, or_false] at isScheme
    rcases isScheme with rfl | rfl <;>
      exact congrArg (Option.map FieldValue.scheme) (scheme?_eq_some colors)
  | factor isNumber inside =>
    obtain ⟨hlow, hhigh⟩ := inside
    simp [meaning?, Value.factor?, isNumber, hlow, hhigh]

/-! ## Addresses -/

/-- The settings, all of them. -/
def all : List Setting :=
  [borderpx, snap, gappx, showbar, topbar, fonts, norm, sel, mfact, nmaster, resizehints,
    lockfullscreen, refreshrate]

theorem mem_all (setting : Setting) : setting ∈ all := by
  cases setting <;> decide

/-- Settings stand apart: none of them is on the way to another one. -/
theorem not_prefix_of_ne {setting other : Setting} (h : setting ≠ other) :
    ¬ setting.path ++ [setting.name] <+: other.path ++ [other.name] := by
  have hall : ∀ setting ∈ all, ∀ other ∈ all, setting ≠ other →
      ¬ setting.path ++ [setting.name] <+: other.path ++ [other.name] := by decide +kernel
  exact hall setting setting.mem_all other other.mem_all h

theorem not_prefix_path (setting other : Setting) :
    ¬ setting.path ++ [setting.name] <+: other.path := by
  have hall : ∀ setting ∈ all, ∀ other ∈ all,
      ¬ setting.path ++ [setting.name] <+: other.path := by decide +kernel
  exact hall setting setting.mem_all other other.mem_all

/-- What a section gives a setting is what is found at its address. -/
theorem given?_inner (root : Group) (setting : Setting) :
    setting.given? (root.inner setting.part.name) =
      (root.innerAt setting.path).get? setting.name := by
  cases setting <;> first | rfl | exact Group.scheme?_eq

variable {root : Group} {snapshot : Snapshot} {value : Value}

theorem given?_addAt_self (setting : Setting) :
    setting.given? ((root.addAt setting.path (setting.name, value)).inner setting.part.name) =
      some value := by
  rw [given?_inner]
  exact Group.get?_innerAt_addAt_self

theorem given?_addAt_of_ne {setting other : Setting} (h : other ≠ setting) :
    other.given? ((root.addAt setting.path (setting.name, value)).inner other.part.name) =
      other.given? (root.inner other.part.name) := by
  rw [given?_inner, given?_inner]
  exact Group.get?_innerAt_addAt_of_apart (not_prefix_of_ne h.symm) (not_prefix_of_ne h)

/-- The values of a section without such settings are left alone. -/
theorem valuesOf_addAt {setting : Setting} {name : String} (h : name ∉ ["appearance", "layout"]) :
    (root.addAt setting.path (setting.name, value)).valuesOf name = root.valuesOf name := by
  simp only [List.mem_cons, List.not_mem_nil, or_false, not_or] at h
  cases setting <;> first
    | exact Group.valuesOf_editLast_of_ne h.1
    | exact Group.valuesOf_editLast_of_ne h.2

end Setting

/-! ## Builds -/

section

variable {root other : Group} {snapshot : Snapshot}

/-- Where a build succeeds, groups stand on the way to every setting. -/
theorem opens_of_build (h : build root = .ok snapshot) (setting : Setting) :
    root.Opens setting.path := by
  obtain ⟨happearance, hlayout, -⟩ := build_eq_ok_iff.1 h
  obtain ⟨hgroup, happearance⟩ := buildAppearance_eq_ok_iff.1 happearance
  have hcolors := (exists_appearanceOf_iff.1 ⟨_, happearance⟩).1
  cases setting with
  | borderpx | snap | gappx | showbar | topbar | fonts => exact ⟨hgroup, trivial⟩
  | norm | sel => exact ⟨hgroup, hcolors, trivial⟩
  | mfact | nmaster | resizehints | lockfullscreen | refreshrate =>
    exact ⟨(buildLayout_eq_ok_iff.1 hlayout).1, trivial⟩

/-- Another configuration is built as well if its settings fit and the other sections are the
same. -/
theorem exists_build_of_fits (h : build root = .ok snapshot)
    (hopens : ∀ setting : Setting, other.Opens setting.path)
    (hfits : ∀ setting : Setting, setting.Fits (other.inner setting.part.name))
    (hvalues : ∀ name ∉ ["appearance", "layout"], other.valuesOf name = root.valuesOf name) :
    ∃ appearance layout, build other =
      .ok { snapshot with appearance := appearance, layout := layout } := by
  obtain ⟨-, -, htags, hrules, hkeys, hbuttons⟩ := build_eq_ok_iff.1 h
  have hpart {part : Section} (setting : Setting) (h : setting.part = part) :
      setting.Fits (other.inner part.name) := h ▸ hfits setting
  obtain ⟨appearance, happearance⟩ := exists_appearanceOf_iff.2 ⟨(hopens .norm).2.1, hpart⟩
  obtain ⟨layout, hlayout⟩ := exists_layoutSettingsOf_iff.2 hpart
  have htagValues := Group.get?_congr (hvalues "tags" (by decide))
  have hruleValues := Group.sections_congr (hvalues "rule" (by decide))
  have hkeyValues := Group.sections_congr (hvalues "key" (by decide))
  have hbuttonValues := Group.sections_congr (hvalues "button" (by decide))
  refine ⟨appearance, layout, build_eq_ok_iff.2 ⟨?_, ?_, ?_, ?_, ?_, ?_⟩⟩
  · exact buildAppearance_eq_ok_iff.2 ⟨(hopens .borderpx).1, happearance⟩
  · exact buildLayout_eq_ok_iff.2 ⟨(hopens .mfact).1, hlayout⟩
  · rwa [buildTags, Section.name, htagValues]
  · exact (buildEntries_congr hruleValues).trans hrules
  · exact (buildEntries_congr hkeyValues).trans hkeys
  · exact (buildEntries_congr hbuttonValues).trans hbuttons

/-- A value that a setting takes is built into its field, and nothing else changes. -/
theorem Setting.Means.exists_build {setting : Setting} {value : Value} {content : FieldValue}
    (hmeans : setting.Means value content) (h : build root = .ok snapshot) :
    ∃ next, build (root.addAt setting.path (setting.name, value)) = .ok next ∧
      setting.Changes content snapshot next := by
  have hfits : ∀ other : Setting, other.Fits
      ((root.addAt setting.path (setting.name, value)).inner other.part.name) := by
    intro other found hfound
    by_cases hother : other = setting
    · subst hother
      obtain rfl := Option.some.inj (hfound.symm.trans other.given?_addAt_self)
      rw [hmeans.meaning?_eq]
      rfl
    · rw [given?_addAt_of_ne hother] at hfound
      exact (holds_inner_of_build h other).fits found hfound
  obtain ⟨appearance, layout, hnext⟩ := exists_build_of_fits h
    (fun other => (opens_of_build h other).addAt (not_prefix_path setting other)) hfits
    fun _ => valuesOf_addAt
  refine ⟨_, hnext, ?_, fun other hother => ?_, rfl, rfl, rfl, rfl⟩
  · have hfield := (holds_inner_of_build hnext setting).of_some setting.given?_addAt_self
    exact Option.some.inj (hfield.symm.trans hmeans.meaning?_eq)
  · exact (holds_inner_of_build h other).field_eq (holds_inner_of_build hnext other)
      (given?_addAt_of_ne hother)

end

/-! ## Whole numbers that do not fit -/

/-- The error for a whole number that does not fit. -/
def Setting.refusal (setting : Setting) (i : Int64) : ConfigError :=
  .entry ⟨setting.part, none, some setting.name⟩ (.outOfRange (toString i.toInt) .unsigned32)

section

variable {group : Group} {i : Int64}

theorem Entry.uint?_append_outside {name : String} {part : Section} {index : Option Nat}
    (h : i.toInt < 0 ∨ 2 ^ (32 : Nat) ≤ i.toInt) :
    (Entry.mk (group ++ [(name, .int i)]) part index).uint? name =
      .error (.entry ⟨part, index, some name⟩ (.outOfRange (toString i.toInt) .unsigned32)) := by
  have hint : (Entry.mk (group ++ [(name, .int i)]) part index).int? name = .ok (some i) :=
    int?_eq_ok_iff.2 (by rw [Group.get?_append_single]; rfl)
  have hrange : ¬ (0 ≤ i.toInt ∧ i.toInt < 2 ^ (32 : Nat)) := by omega
  exact bind_eq_error_iff.2 (Or.inr ⟨_, hint, if_neg hrange⟩)

/-- What is read before the setting is read as before, and then its value is refused. -/
theorem appearanceOf_append_outside {appearance : Appearance}
    (happearance : appearanceOf ⟨group, .appearance, none⟩ = .ok appearance) {setting : Setting}
    (hnumber : setting ∈ Setting.numbers) (hpart : setting.part = .appearance)
    (h : i.toInt < 0 ∨ 2 ^ (32 : Nat) ≤ i.toInt) :
    appearanceOf ⟨group ++ [(setting.name, .int i)], .appearance, none⟩ =
      .error (setting.refusal i) := by
  simp only [appearanceOf, bind_eq_ok_iff, Entry.uint?_eq_ok_iff] at happearance
  obtain ⟨borderpx, hborderpx, snap, hsnap, -⟩ := happearance
  simp only [appearanceOf, bind_eq_error_iff, Entry.uint?_eq_ok_iff]
  have hget {field : String} (hne : field ≠ setting.name) : group.get? field =
      Group.get? (group ++ [(setting.name, .int i)]) field := (Group.get?_append_of_ne hne).symm
  cases setting with
  | borderpx => exact Or.inl (Entry.uint?_append_outside h)
  | snap =>
    rw [hget (by decide)] at hborderpx
    exact Or.inr ⟨borderpx, hborderpx, Or.inl (Entry.uint?_append_outside h)⟩
  | gappx =>
    rw [hget (by decide)] at hborderpx hsnap
    exact Or.inr ⟨borderpx, hborderpx, Or.inr ⟨snap, hsnap, Or.inl (Entry.uint?_append_outside h)⟩⟩
  | nmaster | refreshrate => cases hpart
  | showbar | topbar | fonts | norm | sel | mfact | resizehints | lockfullscreen =>
    exact absurd hnumber (by decide)

theorem layoutSettingsOf_append_outside {layout : LayoutSettings}
    (hlayout : layoutSettingsOf ⟨group, .layout, none⟩ = .ok layout) {setting : Setting}
    (hnumber : setting ∈ Setting.numbers) (hpart : setting.part = .layout)
    (h : i.toInt < 0 ∨ 2 ^ (32 : Nat) ≤ i.toInt) :
    layoutSettingsOf ⟨group ++ [(setting.name, .int i)], .layout, none⟩ =
      .error (setting.refusal i) := by
  simp only [layoutSettingsOf, bind_eq_ok_iff, masterFactor?_eq_ok_iff_get?, Entry.uint?_eq_ok_iff,
    Entry.bool?_eq_ok_iff] at hlayout
  obtain ⟨mfact, hmfact, nmaster, hnmaster, resizehints, hresizehints, lockfullscreen,
    hlockfullscreen, -⟩ := hlayout
  simp only [layoutSettingsOf, bind_eq_error_iff, masterFactor?_eq_ok_iff_get?,
    Entry.uint?_eq_ok_iff, Entry.bool?_eq_ok_iff]
  have hget {field : String} (hne : field ≠ setting.name) : group.get? field =
      Group.get? (group ++ [(setting.name, .int i)]) field := (Group.get?_append_of_ne hne).symm
  cases setting with
  | nmaster =>
    rw [hget (by decide)] at hmfact
    exact Or.inr ⟨mfact, hmfact, Or.inl (Entry.uint?_append_outside h)⟩
  | refreshrate =>
    rw [hget (by decide)] at hmfact hnmaster hresizehints hlockfullscreen
    exact Or.inr ⟨mfact, hmfact, Or.inr ⟨nmaster, hnmaster, Or.inr ⟨resizehints, hresizehints,
      Or.inr ⟨lockfullscreen, hlockfullscreen, Or.inl (Entry.uint?_append_outside h)⟩⟩⟩⟩
  | borderpx | snap | gappx => cases hpart
  | showbar | topbar | fonts | norm | sel | mfact | resizehints | lockfullscreen =>
    exact absurd hnumber (by decide)

end

/-- A whole number that does not fit fails the build at its own setting. -/
theorem build_addAt_outside {root : Group} {snapshot : Snapshot} (h : build root = .ok snapshot)
    {setting : Setting} (hnumber : setting ∈ Setting.numbers) {i : Int64}
    (hi : i.toInt < 0 ∨ 2 ^ (32 : Nat) ≤ i.toInt) :
    build (root.addAt setting.path (setting.name, .int i)) = .error (setting.refusal i) := by
  obtain ⟨happearance, hlayout, -⟩ := build_eq_ok_iff.1 h
  have hpath : setting.path = [setting.part.name] := by
    simp only [Setting.numbers, List.mem_cons, List.not_mem_nil, or_false] at hnumber
    rcases hnumber with rfl | rfl | rfl | rfl | rfl <;> rfl
  have hget : (root.addAt setting.path (setting.name, .int i)).get? setting.part.name =
      some (.group (root.inner setting.part.name ++ [(setting.name, .int i)])) := by
    rw [hpath]
    exact Group.get?_editLast_self
  cases hpart : setting.part with
  | appearance =>
    rw [hpart] at hget
    refine bind_eq_error_iff.2 (Or.inl ?_)
    rw [buildAppearance, onlySection?, hget]
    exact appearanceOf_append_outside (buildAppearance_eq_ok_iff.1 happearance).2 hnumber hpart hi
  | layout =>
    have happearance' : (root.addAt setting.path (setting.name, .int i)).get? "appearance" =
        root.get? "appearance" := by
      rw [hpath, hpart]
      exact Group.get?_editLast_of_ne (by decide)
    rw [hpart] at hget
    refine bind_eq_error_iff.2 (Or.inr ⟨snapshot.appearance, ?_, bind_eq_error_iff.2 (Or.inl ?_)⟩)
    · rwa [buildAppearance, onlySection?, Section.name, happearance']
    · rw [buildLayout, onlySection?, hget]
      exact layoutSettingsOf_append_outside (buildLayout_eq_ok_iff.1 hlayout).2 hnumber hpart hi
  | tags | rule | key | button => cases setting <;> cases hpart

/-- Each setting controls its own field. Where a build succeeds and a value that a setting takes is
added behind the others, the build succeeds with the one snapshot that differs from the old one in
the field of the setting only; a whole number that does not fit is refused; and without a value the
field has its default. -/
theorem setting_controls_its_field {root : Group} {snapshot : Snapshot}
    (h : build root = .ok snapshot) (setting : Setting) :
    (∀ value content, setting.Means value content →
        ∃ next, build (root.addAt setting.path (setting.name, value)) = .ok next ∧
          setting.Changes content snapshot next ∧
          ∀ other, setting.Changes content snapshot other → other = next) ∧
      (setting ∈ Setting.numbers → ∀ i : Int64, i.toInt < 0 ∨ 2 ^ (32 : Nat) ≤ i.toInt →
        build (root.addAt setting.path (setting.name, .int i)) = .error (setting.refusal i)) ∧
      ((root.innerAt setting.path).get? setting.name = none →
        setting.field snapshot = setting.default) := by
  refine ⟨fun value content hmeans => ?_, fun hnumber i hi => build_addAt_outside h hnumber hi,
    fun hnone => ?_⟩
  · obtain ⟨next, hnext, hchanges⟩ := hmeans.exists_build h
    exact ⟨next, hnext, hchanges, fun _ hother => hchanges.unique hother⟩
  · exact (Setting.holds_inner_of_build h setting).of_none ((setting.given?_inner root).trans hnone)

/-- Of two appearances the second one counts: the group of colours is made there, and the snap
distance of the first one is not used. -/
theorem setting_controls_its_field_second_appearance :
    let root : Group :=
      [("appearance", .group [("snap", .int 5), ("colors", .group [])]),
        ("appearance", .group [("borderpx", .int 3)])]
    let colors : Value := .array [.str "#ffffff", .str "#000000", .str "#ff0000"]
    ∃ snapshot next, build root = .ok snapshot ∧
      build [("appearance", .group [("snap", .int 5), ("colors", .group [])]),
        ("appearance", .group [("borderpx", .int 3), ("colors", .group [("sel", colors)])])] =
          .ok next ∧
      Setting.sel.Changes (.scheme ⟨"#ffffff", "#000000", "#ff0000"⟩) snapshot next ∧
      build [("appearance", .group [("snap", .int 5), ("colors", .group [])]),
        ("appearance", .group [("borderpx", .int 3), ("borderpx", .int 4294967296)])] =
          .error (Setting.borderpx.refusal 4294967296) ∧
      Setting.snap.field snapshot = Setting.snap.default := by
  intro root colors
  have hborder : (build root).toOption.map (fun snapshot => snapshot.appearance.borderpx) =
      some 3 := by decide +kernel
  obtain ⟨snapshot, hbuild, -⟩ := map_toOption_eq_some_iff.1 hborder
  have hmeans : Setting.sel.Means colors (.scheme ⟨"#ffffff", "#000000", "#ff0000"⟩) :=
    .scheme ⟨"#ffffff", "#000000", "#ff0000"⟩ (by decide) (by decide)
  obtain ⟨next, hnext, hchanges, -⟩ := (setting_controls_its_field hbuild .sel).1 _ _ hmeans
  have hrefused := (setting_controls_its_field hbuild .borderpx).2.1 (by decide) 4294967296
    (by decide)
  have hdefault := (setting_controls_its_field hbuild .snap).2.2 (by decide)
  exact ⟨snapshot, next, hbuild, hnext, hchanges, hrefused, hdefault⟩

end TilingConfig
