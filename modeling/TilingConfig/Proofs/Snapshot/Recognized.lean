import Mathlib.Logic.Relation
import TilingConfig.Proofs.Setting
import TilingConfig.Proofs.Snapshot.Failure

/-!
# Recognised settings

A build reads the settings whose names it knows, each in the order among those of one name.
Settings of different names can change places, and settings of other names can be added or
removed at every level. What is read of a value is a view of it. An edit that is not seen
keeps the list of the views under each known name, and every look-up is a function of
these lists.
-/

namespace TilingConfig

/-- One edit of a group in which only some names are known. The values of known names may be
edited inside in their own way. -/
inductive Edit (known : List String) (inside : String → Value → Value → Prop) :
    Group → Group → Prop
  | reorder {g h : Group} (hvalues : ∀ name, g.valuesOf name = h.valuesOf name) :
      Edit known inside g h
  | unknown {before after : Group} {name : String} (value : Value) (hname : name ∉ known) :
      Edit known inside (before ++ after) (before ++ (name, value) :: after)
  | inside {before after : Group} {name : String} {value value' : Value}
      (hvalue : inside name value value') :
      Edit known inside (before ++ (name, value) :: after) (before ++ (name, value') :: after)

/-- Groups that differ by such edits only, made or taken back. -/
def SameKnown (known : List String) (inside : String → Value → Value → Prop) :
    Group → Group → Prop := Relation.EqvGen (Edit known inside)

/-- Groups of colours with the same schemes. -/
def SameSchemes : Group → Group → Prop := SameKnown schemeNames fun _ _ _ => False

/-- Groups with the same settings of a section. The group of colours in an appearance is the only
one that is inside another. -/
def Section.SameFields (part : Section) : Group → Group → Prop :=
  SameKnown part.fields fun name value value' => part = .appearance ∧ name = "colors" ∧
    ∃ g h : Group, value = .group g ∧ value' = .group h ∧ SameSchemes g h

/-- Values that differ inside one group of a section: the group of a section that is given once, or
an entry, which stands alone or in an array. -/
inductive Section.SameEntries (part : Section) : Value → Value → Prop
  | group {g h : Group} (hgroup : part.SameFields g h) : SameEntries part (.group g) (.group h)
  | element {before after : List Value} {g h : Group} (hpart : part.isRepeated = true)
      (hgroup : part.SameFields g h) :
      SameEntries part (.array (before ++ .group g :: after)) (.array (before ++ .group h :: after))

/-- Configurations with the same recognised settings. -/
def SameSettings : Group → Group → Prop :=
  SameKnown (Section.order.map Section.name) fun name value value' =>
    ∃ part : Section, name = part.name ∧ part.SameEntries value value'

/-- Two neighbours of different names change places. -/
theorem Edit.swap {known : List String} {inside : String → Value → Value → Prop}
    {before after : Group} {first second : String × Value} (h : first.1 ≠ second.1) :
    Edit known inside (before ++ first :: second :: after)
      (before ++ second :: first :: after) := by
  apply Edit.reorder
  intro name
  simp only [Group.valuesOf_append, Group.valuesOf_cons]
  by_cases hfirst : first.1 = name
  · have hsecond : second.1 ≠ name := fun hname => h (hfirst.trans hname.symm)
    simp only [hfirst, hsecond, ite_true, ite_false]
  · simp only [hfirst, ite_false]

/-! ## Views of values -/

namespace SameKnown

variable {known : List String} {inside : String → Value → Value → Prop} {g h : Group}
  {name : String} {γ : Type} {view : Value → γ}

/-- The values of a known name have the same views in order. -/
theorem map_valuesOf_eq (hsame : SameKnown known inside g h) (hname : name ∈ known)
    (hview : ∀ value value', inside name value value' → view value = view value') :
    (g.valuesOf name).map view = (h.valuesOf name).map view := by
  induction hsame with
  | rel _ _ hedit =>
    cases hedit with
    | reorder hvalues => rw [hvalues]
    | @unknown _ _ name' _ hunknown =>
      have hne : name' ≠ name := by
        rintro rfl
        exact hunknown hname
      simp only [Group.valuesOf_append, Group.valuesOf_cons, hne, ite_false]
    | @inside _ _ name' _ _ hvalue =>
      simp only [Group.valuesOf_append, Group.valuesOf_cons]
      by_cases heq : name' = name
      · subst heq
        simp only [ite_true, List.map_append, List.map_cons, hview _ _ hvalue]
      · simp only [heq, ite_false]
  | refl _ => rfl
  | symm _ _ _ ih => exact ih.symm
  | trans _ _ _ _ _ ih ih' => exact ih.trans ih'

/-- The last value of a known name has the same view. -/
theorem map_get?_eq (hsame : SameKnown known inside g h) (hname : name ∈ known)
    (hview : ∀ value value', inside name value value' → view value = view value') :
    (g.get? name).map view = (h.get? name).map view := by
  rw [Group.get?_eq_getLast?_valuesOf, Group.get?_eq_getLast?_valuesOf, ← List.getLast?_map,
    ← List.getLast?_map, hsame.map_valuesOf_eq hname hview]

/-- The last value of a known name is the same if such values are not edited inside. -/
theorem get?_eq (hsame : SameKnown known inside g h) (hname : name ∈ known)
    (hinside : ∀ value value', ¬ inside name value value') : g.get? name = h.get? name := by
  have hmap : (g.get? name).map id = (h.get? name).map id :=
    hsame.map_get?_eq hname fun value value' hvalue => absurd hvalue (hinside value value')
  simpa using hmap

end SameKnown

/-! ## The groups of a section -/

theorem SameSchemes.schemesOf_eq {g h : Group} (hsame : SameSchemes g h) :
    schemesOf (.group g) = schemesOf (.group h) := by
  apply congrArg Sum.inr
  apply List.map_congr_left
  intro name hname
  exact SameKnown.get?_eq hsame hname fun _ _ hinside => hinside

namespace Section.SameFields

variable {part : Section} {g h : Group}

/-- All that is read of a group but the colours is read as it is. -/
theorem agreeOn (hsame : part.SameFields g h) {names : List String} (hnames : names ⊆ part.fields)
    (hcolors : part = .appearance → "colors" ∉ names) (index : Option Nat) :
    Entry.AgreeOn names ⟨g, part, index⟩ ⟨h, part, index⟩ := by
  intro name hname
  apply SameKnown.get?_eq hsame (hnames hname)
  rintro value value' ⟨hpart, rfl, -⟩
  exact hcolors hpart hname

theorem appearanceOf_eq (hsame : Section.appearance.SameFields g h) :
    appearanceOf ⟨g, .appearance, none⟩ = appearanceOf ⟨h, .appearance, none⟩ := by
  have hcolors : (g.get? "colors").map schemesOf = (h.get? "colors").map schemesOf := by
    apply SameKnown.map_get?_eq hsame (by decide)
    rintro value value' ⟨-, -, colors, colors', rfl, rfl, hsame⟩
    exact hsame.schemesOf_eq
  have hfields : Entry.AgreeOn ["borderpx", "snap", "gappx", "showbar", "topbar", "fonts"]
      ⟨g, .appearance, none⟩ ⟨h, .appearance, none⟩ :=
    hsame.agreeOn (by decide) (by decide) none
  exact (sameReading_appearanceOf hfields hcolors).eq_of_place rfl rfl

theorem layoutSettingsOf_eq (hsame : Section.layout.SameFields g h) :
    layoutSettingsOf ⟨g, .layout, none⟩ = layoutSettingsOf ⟨h, .layout, none⟩ := by
  have hfields := hsame.agreeOn (List.Subset.refl _) (by decide) none
  exact (sameReading_layoutSettingsOf hfields).eq_of_place rfl rfl

end Section.SameFields

/-! ## The sections of a configuration -/

namespace SameSettings

variable {root other : Group} {α : Type}

/-- What is built for a section that is given once is built from its last value. -/
theorem read_eq (hsame : SameSettings root other) (part : Section) {read : Group → α}
    (hread : ∀ g h : Group, g.get? part.name = h.get? part.name → read g = read h)
    (hentries : ∀ value value', part.SameEntries value value' →
      read [(part.name, value)] = read [(part.name, value')]) : read root = read other := by
  have hmap : (root.get? part.name).map (fun value => read [(part.name, value)]) =
      (other.get? part.name).map (fun value => read [(part.name, value)]) := by
    apply SameKnown.map_get?_eq hsame (List.mem_map_of_mem part.mem_order)
    rintro value value' ⟨part', hname, hvalue⟩
    obtain rfl := Section.name_injective hname
    exact hentries value value' hvalue
  have hlast : ∀ (g : Group) (value : Value), g.get? part.name = some value →
      read g = read [(part.name, value)] := by
    intro g value hget
    apply hread
    rw [hget]
    exact (Group.get?_append_single [] part.name value).symm
  cases hroot : root.get? part.name with
  | none =>
    rw [hroot] at hmap
    have hother := Option.map_eq_none_iff.1 hmap.symm
    exact hread root other (hroot.trans hother.symm)
  | some value =>
    rw [hroot] at hmap
    obtain ⟨value', hother, hvalue⟩ := Option.map_eq_some_iff.1 hmap.symm
    rw [hlast root value hroot, hlast other value' hother, hvalue]

theorem buildAppearance_eq (hsame : SameSettings root other) :
    buildAppearance root = buildAppearance other := by
  apply hsame.read_eq .appearance
  · intro g h hget
    simp only [buildAppearance, onlySection?, hget]
  · rintro _ _ (hgroup | ⟨hpart, -⟩)
    · exact hgroup.appearanceOf_eq
    · cases hpart

theorem buildLayout_eq (hsame : SameSettings root other) :
    buildLayout root = buildLayout other := by
  apply hsame.read_eq .layout
  · intro g h hget
    simp only [buildLayout, onlySection?, hget]
  · rintro _ _ (hgroup | ⟨hpart, -⟩)
    · exact hgroup.layoutSettingsOf_eq
    · cases hpart

theorem buildTags_eq (hsame : SameSettings root other) : buildTags root = buildTags other := by
  apply hsame.read_eq .tags
  · intro g h hget
    simp only [buildTags, hget]
  · rintro _ _ (- | ⟨hpart, -⟩)
    · rfl
    · cases hpart

end SameSettings

/-- What comes of a value of a repeated section at a place: no group, or a group that is built. -/
def entryOutcome {α : Type} (part : Section) (build : Entry → Except ConfigError α) (value : Value)
    (index : Nat) : Except ConfigError (Except ConfigError α) :=
  (entryOf part value index).map build

/-- A repeated section is built from the outcomes of its entries in order. -/
theorem buildEntries_eq_outcomes {α : Type} (part : Section) (build : Entry → Except ConfigError α)
    (root : Group) : buildEntries part build root =
      ((((root.valuesOf part.name).map fun value =>
        value.sections.map (entryOutcome part build)).flatten).zipIdx.mapM fun (step, index) =>
          step index) >>= fun steps => steps.mapM id := by
  have hflatten : ((root.valuesOf part.name).map fun value =>
      value.sections.map (entryOutcome part build)).flatten =
        (root.sections part.name).map (entryOutcome part build) := by
    rw [Group.sections_eq_flatMap_valuesOf, List.map_flatMap, List.flatMap_def]
  rw [hflatten, buildEntries, entries, mapM_map_bind_mapM, List.zipIdx_map, List.mapM_map]
  rfl

/-- A repeated section whose entries are read by their known fields. -/
theorem SameSettings.buildEntries_eq {root other : Group} {α : Type} {part : Section}
    {build : Entry → Except ConfigError α} (hsame : SameSettings root other)
    (hpart : part ≠ .appearance)
    (hbuild : ∀ {entry entry' : Entry}, Entry.AgreeOn part.fields entry entry' →
      SameReading entry entry' (build entry) (build entry')) :
    buildEntries part build root = buildEntries part build other := by
  have hgroup : ∀ g h : Group, part.SameFields g h →
      entryOutcome part build (.group g) = entryOutcome part build (.group h) := by
    intro g h hfields
    funext index
    have hagree := hfields.agreeOn (List.Subset.refl _) (fun h => absurd h hpart) (some index)
    exact congrArg Except.ok ((hbuild hagree).eq_of_place rfl rfl)
  rw [buildEntries_eq_outcomes, buildEntries_eq_outcomes,
    SameKnown.map_valuesOf_eq hsame (List.mem_map_of_mem part.mem_order)]
  rintro value value' ⟨part', hname, hvalue⟩
  obtain rfl := Section.name_injective hname
  cases hvalue with
  | group hfields => exact congrArg (fun step => [step]) (hgroup _ _ hfields)
  | element _ hfields =>
    simp only [Value.sections, List.map_append, List.map_cons, hgroup _ _ hfields]

/-- A build depends on the recognised settings and on the order among those of one name: edits that
change places of different names, or add or remove other names, at any level, give the same
snapshot or the same error. -/
theorem build_eq_of_sameSettings {root other : Group} (hsame : SameSettings root other) :
    build root = build other := by
  have hrules : buildRules root = buildRules other :=
    hsame.buildEntries_eq (by decide) sameReading_ruleOf
  have hkeys : buildKeys root = buildKeys other :=
    hsame.buildEntries_eq (by decide) sameReading_keyCommandOf
  have hbuttons : buildButtons root = buildButtons other :=
    hsame.buildEntries_eq (by decide) sameReading_buttonCommandOf
  simp only [build, hsame.buildAppearance_eq, hsame.buildLayout_eq, hsame.buildTags_eq, hrules,
    hkeys, hbuttons]

/-- A key with a note, a setting of no section, and the tags in the last place: a configuration as
without the note and the setting and with the tags in the first place. -/
theorem build_eq_of_sameSettings_noted_key :
    let key : Value := .group [("bind", .str "super+p"), ("func", .str "quit")]
    let noted : Value := .group [("bind", .str "super+p"), ("note", .int 1), ("func", .str "quit")]
    let tags : Value := .array [.str "web"]
    let root : Group := [("tags", tags), ("key", .array [key])]
    let other : Group := [("key", .array [noted]), ("author", .str "me"), ("tags", tags)]
    SameSettings root other ∧ build root = build other := by
  intro key noted tags root other
  have hswap : SameSettings root [("key", .array [key]), ("tags", tags)] :=
    .rel _ _ (@Edit.swap _ _ [] [] _ _ (by decide))
  have hnoted : Section.key.SameFields [("bind", .str "super+p"), ("func", .str "quit")]
      [("bind", .str "super+p"), ("note", .int 1), ("func", .str "quit")] :=
    .rel _ _ (@Edit.unknown _ _ [_] [_] "note" _ (by decide))
  have hkey : SameSettings [("key", .array [key]), ("tags", tags)]
      [("key", .array [noted]), ("tags", tags)] :=
    .rel _ _ (@Edit.inside _ _ [] [_] "key" _ _ ⟨.key, rfl, @Section.SameEntries.element _ [] [] _ _
      rfl hnoted⟩)
  have hauthor : SameSettings [("key", .array [noted]), ("tags", tags)] other :=
    .rel _ _ (@Edit.unknown _ _ [_] [_] "author" _ (by decide))
  have hsame : SameSettings root other := .trans _ _ _ hswap (.trans _ _ _ hkey hauthor)
  exact ⟨hsame, build_eq_of_sameSettings hsame⟩

end TilingConfig
