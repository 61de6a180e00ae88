import TilingConfig.Proofs.Snapshot.Defect
import TilingConfig.Proofs.Snapshot.Failure

/-!
# Reported defects are there

An error of a build names a section, a place in it and a field. Whoever follows these in the
settings finds a value that has the defect which is told, or finds no value where one has to
be. So it is with every reader of a field, and it stays so when readers are put together,
since each tells the field that it reads.
-/

namespace TilingConfig

open TilingConfig.Binding TilingConfig.CoreInstances TilingConfig.Number

/-! ## Readers of a field -/

/-- A reader takes exactly the values of the kinds that are accepted. -/
def Takes {α : Type} (asked : Kind) (take : Value → Option α) : Prop :=
  ∀ value, (take value).isSome = asked.accepts value.kind

theorem takes_bool? : Takes .boolean Value.bool? := fun value => by cases value <;> rfl

theorem takes_int? : Takes .integer Value.int? := fun value => by cases value <;> rfl

theorem takes_float? : Takes .float Value.float? := fun value => by cases value <;> rfl

theorem takes_str? : Takes .string Value.str? := fun value => by cases value <;> rfl

theorem takes_group? : Takes .group Value.group? := fun value => by cases value <;> rfl

namespace Group

variable {α : Type} {group : Group} {name : String} {expected : Kind} {take : Value → Option α}

/-- The settings of a section's own group are not taken for those in the group of colours. -/
theorem at?_of_mem_kinds {part : Section} {field : String} {asked : Kind}
    (h : (field, asked) ∈ part.kinds) : group.at? field = group.get? field := by
  have hplain : ∀ kind ∈ part.kinds,
      schemeNames.find? (fun name => "colors." ++ name == kind.1) = none := by
    cases part <;> decide
  rw [at?, hplain _ h]

theorem at?_scheme {name : String} (h : name ∈ schemeNames) :
    group.at? ("colors." ++ name) = group.scheme? name := by
  simp only [schemeNames, List.mem_cons, List.not_mem_nil, or_false] at h
  rcases h with rfl | rfl <;> rfl

theorem field?_eq_error_iff {mismatch : Mismatch} :
    group.field? name expected take = .error mismatch ↔
      ∃ value, group.get? name = some value ∧ take value = none ∧
        mismatch = ⟨expected, value.kind⟩ := by
  rw [field?]
  cases group.get? name with
  | none => simp
  | some value => cases htake : take value <;> simp [htake, eq_comm]

end Group

theorem exists_str_of_kind {value : Value} (h : value.kind = .string) :
    ∃ text, value = .str text := by
  cases value <;> first | exact ⟨_, rfl⟩ | cases h

theorem textsOf_eq_error {items : List Value} {mismatch : Mismatch}
    (h : textsOf items = .error mismatch) :
    ∃ before bad after, items = before ++ bad :: after ∧ (∀ value ∈ before, value.kind = .string) ∧
      bad.kind ≠ .string ∧ mismatch = ⟨.string, bad.kind⟩ := by
  induction items with
  | nil => cases h
  | cons first rest ih =>
    by_cases hfirst : first.kind = .string
    · obtain ⟨text, rfl⟩ := exists_str_of_kind hfirst
      have hrest : textsOf rest = .error mismatch := by
        rw [textsOf] at h
        cases htexts : textsOf rest with
        | ok texts => simp [htexts, Except.map] at h
        | error mismatch' => simpa [htexts, Except.map] using h
      obtain ⟨before, bad, after, rfl, hbefore, hbad⟩ := ih hrest
      exact ⟨.str text :: before, bad, after, rfl, List.forall_mem_cons.2 ⟨rfl, hbefore⟩, hbad⟩
    · refine ⟨[], first, rest, rfl, List.forall_mem_nil _, hfirst, ?_⟩
      cases first <;> first | exact (Except.error.inj h).symm | exact absurd rfl hfirst

/-- A list of texts is refused as a whole or for its first element that is no text. -/
theorem Group.misfit_of_strings? {group : Group} {name : String} {mismatch : Mismatch}
    (h : group.strings? name = .error mismatch) :
    ∃ value, group.get? name = some value ∧ Misfit .strings value mismatch := by
  rw [strings?] at h
  split at h
  · cases h
  · next items hitems =>
    have htexts : textsOf items = .error mismatch := by
      cases hread : textsOf items with
      | ok texts => simp [hread, Except.map] at h
      | error mismatch' => simpa [hread, Except.map] using h
    obtain ⟨before, bad, after, rfl, hbefore, hbad, rfl⟩ := textsOf_eq_error htexts
    exact ⟨_, hitems, .element rfl hbefore hbad⟩
  · next value hother hvalue =>
    refine ⟨value, hvalue, ?_⟩
    rw [← Except.error.inj h]
    refine .whole ?_
    cases value <;> first | rfl | exact absurd rfl (hother _)

/-! ## Truthful readings -/

/-- Whatever a reading of an entry is refused for is there, at the field that is told. -/
def Truthful {α : Type} (entry : Entry) (result : Except ConfigError α) : Prop :=
  ∀ e, result = .error e →
    ∃ field defect, e = entry.fault field defect ∧ FieldDefect entry.part entry.group field defect

namespace Truthful

variable {α β : Type} {entry : Entry}

theorem ok (value : α) : Truthful entry (.ok value) := fun _ h => nomatch h

theorem fault {field : String} {defect : Defect}
    (h : FieldDefect entry.part entry.group field defect) :
    Truthful entry (.error (entry.fault field defect) : Except ConfigError α) :=
  fun _ he => ⟨field, defect, (Except.error.inj he).symm, h⟩

theorem bind {result : Except ConfigError α} {next : α → Except ConfigError β}
    (hresult : Truthful entry result)
    (hnext : ∀ value, result = .ok value → Truthful entry (next value)) :
    Truthful entry (result >>= next) := by
  intro e h
  rcases bind_eq_error_iff.1 h with hfirst | ⟨middle, hfirst, hrest⟩
  · exact hresult e hfirst
  · exact hnext middle hfirst e hrest

/-- A reading by kind is truthful if its misfits are. -/
theorem typed {field : String} {asked : Kind} {result : Except Mismatch α}
    (hasks : entry.part.Asks field asked)
    (hresult : ∀ mismatch, result = .error mismatch →
      ∃ value, entry.group.at? field = some value ∧ Misfit asked value mismatch) :
    Truthful entry (entry.typed field result) := by
  cases result with
  | ok value => exact .ok value
  | error mismatch =>
    obtain ⟨value, hvalue, hmisfit⟩ := hresult mismatch rfl
    exact .fault ⟨value, asked, hvalue, hasks, hmisfit⟩

end Truthful

namespace Entry

variable {α : Type} {entry : Entry} {field : String}

theorem truthful_field? {asked : Kind} {take : Value → Option α} (htake : Takes asked take)
    (hkind : (field, asked) ∈ entry.part.kinds) :
    Truthful entry (entry.typed field (entry.group.field? field asked take)) := by
  refine .typed (Or.inl hkind) fun mismatch h => ?_
  obtain ⟨value, hvalue, hnone, rfl⟩ := Group.field?_eq_error_iff.1 h
  refine ⟨value, (Group.at?_of_mem_kinds hkind).trans hvalue, .whole ?_⟩
  rw [← htake value, hnone]
  rfl

theorem truthful_strings? (hkind : (field, .strings) ∈ entry.part.kinds) :
    Truthful entry (entry.strings? field) := by
  refine .typed (Or.inl hkind) fun mismatch h => ?_
  rw [Group.at?_of_mem_kinds hkind]
  exact Group.misfit_of_strings? h

/-- A text that was read stands at its field. -/
theorem at?_of_str? {text : String} (hkind : (field, .string) ∈ entry.part.kinds)
    (h : entry.str? field = .ok (some text)) : entry.group.at? field = some (.str text) := by
  obtain ⟨value, hvalue, htext⟩ := Option.map_eq_some_iff.1 (str?_eq_ok_iff.1 h)
  rw [Group.at?_of_mem_kinds hkind, hvalue, Value.str?_eq_some_iff.1 htext]

/-- A whole number that was read stands at its field. -/
theorem at?_of_int? {i : Int64} (hkind : (field, .integer) ∈ entry.part.kinds)
    (h : entry.int? field = .ok (some i)) : entry.group.at? field = some (.int i) := by
  obtain ⟨value, hvalue, hint⟩ := Option.map_eq_some_iff.1 (int?_eq_ok_iff.1 h)
  rw [Group.at?_of_mem_kinds hkind, hvalue, Value.int?_eq_some_iff.1 hint]

theorem truthful_requireStr (hkind : (field, .string) ∈ entry.part.kinds)
    (hfield : field ∈ ["bind", "func", "click"]) : Truthful entry (entry.requireStr field) := by
  refine .bind (truthful_field? takes_str? hkind) fun found hfound => ?_
  cases found with
  | some text => exact .ok text
  | none =>
    have hnone := Option.map_eq_none_iff.1 (str?_eq_ok_iff.1 hfound)
    exact .fault ⟨hfield, (Group.at?_of_mem_kinds hkind).trans hnone⟩

/-- A text that must be given stands at its field. -/
theorem at?_of_requireStr {text : String} (hkind : (field, .string) ∈ entry.part.kinds)
    (h : entry.requireStr field = .ok text) : entry.group.at? field = some (.str text) := by
  obtain ⟨found, hfound, h⟩ := bind_eq_ok_iff.1 h
  cases found with
  | none => cases h
  | some text' =>
    obtain rfl := Except.ok.inj h
    exact at?_of_str? hkind hfound

theorem truthful_uint? (hkind : (field, .integer) ∈ entry.part.kinds)
    (hrange : (field, .unsigned32) ∈ entry.part.ranges) : Truthful entry (entry.uint? field) := by
  refine .bind (truthful_field? takes_int? hkind) fun found hfound => ?_
  cases found with
  | none => exact .ok none
  | some i =>
    dsimp only
    split
    · exact .ok _
    · next hinside =>
      exact .fault ⟨_, at?_of_int? hkind hfound, hrange, .unsigned32 (by omega)⟩

theorem truthful_monitor? (hkind : (field, .integer) ∈ entry.part.kinds)
    (hrange : (field, .monitorIndex) ∈ entry.part.ranges) :
    Truthful entry (entry.monitor? field) := by
  refine .bind (truthful_field? takes_int? hkind) fun found hfound => ?_
  cases found with
  | none => exact .ok none
  | some i =>
    dsimp only
    split
    · exact .ok _
    · next hinside =>
      exact .fault ⟨_, at?_of_int? hkind hfound, hrange, .monitorIndex (by omega)⟩

/-! ### Commands -/

/-- A text that no member of a vocabulary has for its name is not found there. -/
theorem not_mem_of_find? {β : Type} {vocabulary : List β} {wording : β → String} {text : String}
    (h : (vocabulary.find? fun member => wording member == text) = none) :
    text ∉ vocabulary.map wording := by
  intro hmem
  obtain ⟨member, hmember, rfl⟩ := List.mem_map.1 hmem
  exact List.find?_eq_none.1 h member hmember (beq_self_eq_true _)

theorem truthful_action (hkinds : commandKinds ⊆ entry.part.kinds) :
    Truthful entry entry.action := by
  have hkind : ("func", .string) ∈ entry.part.kinds := hkinds (by decide)
  refine .bind (truthful_requireStr hkind (by decide)) fun name hname => ?_
  cases hfound : Action.ofName? name with
  | some action => exact .ok action
  | none =>
    exact .fault ⟨rfl, at?_of_requireStr hkind hname, not_mem_of_find? hfound⟩

/-- A name that leads to no place in the list is that of no layout. -/
theorem not_mem_of_layoutRef_ofName? {name : String} (h : LayoutRef.ofName? name = none) :
    name ∉ Layout.registry.map Layout.name := by
  have hnone := List.findIdx?_eq_none_iff.1 (Option.map_eq_none_iff.1 h)
  exact not_mem_of_find? (List.find?_eq_none.2 fun layout hlayout => by simp [hnone layout hlayout])

/-- Only a layout that is named, and is not in the list, spoils an argument. -/
theorem truthful_argument (hkinds : commandKinds ⊆ entry.part.kinds) :
    Truthful entry entry.argument := by
  have hkind : ("layout", .string) ∈ entry.part.kinds := hkinds (by decide)
  refine .bind (truthful_field? takes_str? (hkinds (by decide))) fun text _ => ?_
  refine .bind (truthful_field? takes_int? (hkinds (by decide))) fun int _ => ?_
  refine .bind (truthful_field? takes_float? (hkinds (by decide))) fun float _ => ?_
  refine .bind (truthful_field? takes_str? hkind) fun layout hlayout => ?_
  cases layout with
  | none => exact .ok _
  | some name =>
    cases hfound : LayoutRef.ofName? name with
    | some ref =>
      simp only [Argument.resolve, hfound]
      exact .ok _
    | none =>
      simp only [Argument.resolve, hfound]
      exact .fault ⟨rfl, at?_of_str? hkind hlayout, not_mem_of_layoutRef_ofName? hfound⟩

theorem truthful_binding {read : String → Except Binding.Error (Chord α)}
    (hkind : ("bind", .string) ∈ entry.part.kinds)
    (hread : ∀ input cause, read input = .error cause → entry.part.Refuses input cause) :
    Truthful entry (entry.binding read) := by
  refine .bind (truthful_requireStr hkind (by decide)) fun input hinput => ?_
  cases hbinding : read input with
  | ok binding => exact .ok binding
  | error cause =>
    exact .fault ⟨rfl, at?_of_requireStr hkind hinput, hread input cause hbinding⟩

end Entry

open Entry

variable {entry : Entry}

theorem truthful_keyCommandOf (hpart : entry.part = .key) :
    Truthful entry (keyCommandOf entry) := by
  have hkinds : commandKinds ⊆ entry.part.kinds := hpart ▸ List.Subset.refl _
  have hread : ∀ input cause, readKey input = .error cause → entry.part.Refuses input cause := by
    rw [hpart]
    exact fun _ _ h => h
  exact .bind (truthful_binding (hkinds (by decide)) hread) fun _ _ =>
    .bind (truthful_action hkinds) fun _ _ => .bind (truthful_argument hkinds) fun _ _ => .ok _

theorem truthful_clickOf (hkind : ("click", .string) ∈ entry.part.kinds) :
    Truthful entry (clickOf entry) := by
  refine .bind (truthful_requireStr hkind (by decide)) fun name hname => ?_
  cases hfound : Click.ofName? name with
  | some click => exact .ok click
  | none => exact .fault ⟨rfl, at?_of_requireStr hkind hname, not_mem_of_find? hfound⟩

theorem truthful_buttonCommandOf (hpart : entry.part = .button) :
    Truthful entry (buttonCommandOf entry) := by
  have hkinds : Section.button.kinds ⊆ entry.part.kinds := hpart ▸ List.Subset.refl _
  have hcommand : commandKinds ⊆ entry.part.kinds :=
    List.Subset.trans (List.subset_cons_self _ _) hkinds
  have hread : ∀ input cause, readButton input = .error cause → entry.part.Refuses input cause := by
    rw [hpart]
    exact fun _ _ h => h
  exact .bind (truthful_clickOf (hkinds (by decide))) fun _ _ =>
    .bind (truthful_binding (hcommand (by decide)) hread) fun _ _ =>
      .bind (truthful_action hcommand) fun _ _ =>
        .bind (truthful_argument hcommand) fun _ _ => .ok _

theorem truthful_ruleOf (hpart : entry.part = .rule) : Truthful entry (ruleOf entry) := by
  have hkinds : Section.rule.kinds ⊆ entry.part.kinds := hpart ▸ List.Subset.refl _
  have hranges : Section.rule.ranges ⊆ entry.part.ranges := hpart ▸ List.Subset.refl _
  exact .bind (truthful_field? takes_str? (hkinds (by decide))) fun _ _ =>
    .bind (truthful_field? takes_str? (hkinds (by decide))) fun _ _ =>
      .bind (truthful_field? takes_str? (hkinds (by decide))) fun _ _ =>
        .bind (truthful_uint? (hkinds (by decide)) (hranges (by decide))) fun _ _ =>
          .bind (truthful_field? takes_bool? (hkinds (by decide))) fun _ _ =>
            .bind (truthful_monitor? (hkinds (by decide)) (hranges (by decide))) fun _ _ => .ok _

/-! ### The look and the layout -/

theorem truthful_masterFactor? (hpart : entry.part = .layout) :
    Truthful entry (masterFactor? entry) := by
  have hkind : ("mfact", .float) ∈ entry.part.kinds := hpart ▸ by decide
  have hrange : ("mfact", .masterFactor) ∈ entry.part.ranges := hpart ▸ by decide
  refine .bind (truthful_field? takes_float? hkind) fun found hfound => ?_
  cases found with
  | none => exact .ok none
  | some factor =>
    obtain ⟨value, hvalue, hfactor⟩ := Option.map_eq_some_iff.1 (float?_eq_ok_iff.1 hfound)
    dsimp only
    split
    · next houtside =>
      rw [Bool.or_eq_true] at houtside
      exact .fault ⟨value, (Group.at?_of_mem_kinds hkind).trans hvalue, hrange,
        .masterFactor hfactor houtside⟩
    · exact .ok _

theorem truthful_layoutSettingsOf (hpart : entry.part = .layout) :
    Truthful entry (layoutSettingsOf entry) := by
  have hkinds : Section.layout.kinds ⊆ entry.part.kinds := hpart ▸ List.Subset.refl _
  have hranges : Section.layout.ranges ⊆ entry.part.ranges := hpart ▸ List.Subset.refl _
  exact .bind (truthful_masterFactor? hpart) fun _ _ =>
    .bind (truthful_uint? (hkinds (by decide)) (hranges (by decide))) fun _ _ =>
      .bind (truthful_field? takes_bool? (hkinds (by decide))) fun _ _ =>
        .bind (truthful_field? takes_bool? (hkinds (by decide))) fun _ _ =>
          .bind (truthful_uint? (hkinds (by decide)) (hranges (by decide))) fun _ _ => .ok _

/-- Of three colours the first bad one is told, and of another number of texts the number. -/
theorem truthful_colorScheme {name : String} (hname : name ∈ schemeNames)
    (hpart : entry.part = .appearance) {colors : List String}
    (hat : entry.group.at? ("colors." ++ name) = some (.array (colors.map .str))) :
    Truthful entry (colorScheme entry ("colors." ++ name) colors) := by
  have hfield : "colors." ++ name ∈ schemeFields := List.mem_map.2 ⟨name, hname, rfl⟩
  have hrange : ("colors." ++ name, .colorCount) ∈ entry.part.ranges := by
    have hall : ∀ name ∈ schemeNames,
        ("colors." ++ name, .colorCount) ∈ Section.appearance.ranges := by decide
    rw [hpart]
    exact hall name hname
  unfold colorScheme
  split
  · next fg bg border =>
    split
    · next color hfind =>
      obtain ⟨hcolor, before, after, hsplit, hbefore⟩ := List.find?_eq_some_iff_append.1 hfind
      refine .fault ⟨hfield, _, hat, before, after, by rw [hsplit], by rw [← hsplit]; rfl, ?_, ?_⟩
      · intro other hother
        exact isColor_iff.1 (by simpa using hbefore other hother)
      · rw [← isColor_iff]
        simpa using hcolor
    · exact .ok _
  · next hcount =>
    refine .fault ⟨_, hat, hrange, .colorCount fun hlength => ?_⟩
    obtain ⟨fg, bg, border, rfl⟩ := List.length_eq_three.1 hlength
    exact hcount fg bg border rfl

theorem truthful_colorSchemeOr {group : Group} {name : String} (hname : name ∈ schemeNames)
    (hpart : entry.part = .appearance) (hgroup : entry.group.get? "colors" = some (.group group))
    (old : ColorScheme) : Truthful entry (colorSchemeOr entry group name old) := by
  have hfield : "colors." ++ name ∈ schemeFields := List.mem_map.2 ⟨name, hname, rfl⟩
  have hat : entry.group.at? ("colors." ++ name) = group.get? name := by
    rw [Group.at?_scheme hname, Group.scheme?, hgroup]
    rfl
  refine .bind (.typed (Or.inr ⟨hpart, hfield, rfl⟩) fun mismatch h => ?_) fun found hfound => ?_
  · rw [hat]
    exact Group.misfit_of_strings? h
  · cases found with
    | none => exact .ok old
    | some colors =>
      refine truthful_colorScheme hname hpart ?_
      have hread := Group.strings?_eq_ok_iff.1 (typed_eq_ok_iff.1 hfound)
      obtain ⟨value, hvalue, htexts⟩ := Option.map_eq_some_iff.1 hread
      rw [hat, hvalue, Value.texts?_eq_some_iff.1 htexts]

theorem truthful_colorsOr (hpart : entry.part = .appearance) (old : Colors) :
    Truthful entry (colorsOr entry old) := by
  have hkind : ("colors", .group) ∈ entry.part.kinds := hpart ▸ by decide
  refine .bind (truthful_field? takes_group? hkind) fun found hfound => ?_
  cases found with
  | none => exact .ok old
  | some group =>
    have hread := Group.field?_eq_ok_iff.1 (typed_eq_ok_iff.1 hfound)
    obtain ⟨value, hvalue, hgroup⟩ := Option.map_eq_some_iff.1 hread
    obtain rfl := Value.group?_eq_some_iff.1 hgroup
    exact .bind (truthful_colorSchemeOr (by decide) hpart hvalue _) fun _ _ =>
      .bind (truthful_colorSchemeOr (by decide) hpart hvalue _) fun _ _ => .ok _

theorem truthful_appearanceOf (hpart : entry.part = .appearance) :
    Truthful entry (appearanceOf entry) := by
  have hkinds : Section.appearance.kinds ⊆ entry.part.kinds := hpart ▸ List.Subset.refl _
  have hranges : Section.appearance.ranges ⊆ entry.part.ranges := hpart ▸ List.Subset.refl _
  exact .bind (truthful_uint? (hkinds (by decide)) (hranges (by decide))) fun _ _ =>
    .bind (truthful_uint? (hkinds (by decide)) (hranges (by decide))) fun _ _ =>
      .bind (truthful_uint? (hkinds (by decide)) (hranges (by decide))) fun _ _ =>
        .bind (truthful_field? takes_bool? (hkinds (by decide))) fun _ _ =>
          .bind (truthful_field? takes_bool? (hkinds (by decide))) fun _ _ =>
            .bind (truthful_strings? (hkinds (by decide))) fun _ _ =>
              .bind (truthful_colorsOr hpart _) fun _ _ => .ok _

/-! ## Failed sections -/

/-- An error is at an entry, and its location shows it. -/
def ConfigError.Shown (root : Group) (e : ConfigError) : Prop :=
  ∃ location defect, e = .entry location defect ∧ location.Shows root defect

section

variable {α : Type} {root : Group} {part : Section} {index : Option Nat} {e : ConfigError}

/-- What a truthful reading of a group is refused for is shown where the group stands. -/
theorem Truthful.shown {group : Group} {result : Except ConfigError α}
    (hresult : Truthful ⟨group, part, index⟩ result)
    (hat : part.valueAt? root index = some (.group group)) (h : result = .error e) :
    e.Shown root := by
  obtain ⟨field, defect, rfl, hdefect⟩ := hresult e h
  exact ⟨_, _, rfl, _, hat, group, rfl, hdefect⟩

/-- A value that is asked for as a whole and refused. -/
theorem shown_of_refused {value : Value} (hat : part.valueAt? root index = some value)
    (hrefused : (part.askedAt index).accepts value.kind = false) :
    (ConfigError.entry ⟨part, index, none⟩ (.fieldType ⟨part.askedAt index, value.kind⟩)).Shown
      root :=
  ⟨_, _, rfl, value, hat, hrefused, rfl⟩

/-- A section that is given once, with defaults that cannot fail. -/
theorem shown_of_onlySection {build : Option Entry → Except ConfigError α} {default : α}
    (h : onlySection? root part >>= build = .error e) (hpart : part = .appearance ∨ part = .layout)
    (hnone : build none = .ok default)
    (hsome : ∀ group, Truthful ⟨group, part, none⟩ (build (some ⟨group, part, none⟩))) :
    e.Shown root := by
  have hat : part.valueAt? root none = root.get? part.name := by
    rcases hpart with rfl | rfl <;> rfl
  have hasked : part.askedAt none = .group := by rcases hpart with rfl | rfl <;> rfl
  rcases bind_eq_error_iff.1 h with honly | ⟨found, honly, hbuild⟩
  · rw [onlySection?] at honly
    split at honly
    · cases honly
    · cases honly
    · next value hother hvalue =>
      rw [← Except.error.inj honly, ← hasked]
      refine shown_of_refused (hat.trans hvalue) ?_
      rw [hasked]
      cases value <;> first | rfl | exact absurd rfl (hother _)
  · cases found with
    | none =>
      rw [hnone] at hbuild
      cases hbuild
    | some entry =>
      obtain ⟨group, hgroup, rfl⟩ := onlySection?_eq_some_iff.1 honly
      exact (hsome group).shown (hat.trans hgroup) hbuild

theorem shown_of_buildTags (h : buildTags root = .error e) : e.Shown root := by
  rw [buildTags] at h
  split at h
  · cases h
  · next items hitems =>
    have hplace {item : Value} {tag : String} (i j : Nat) (h : tagOf item i = .ok tag) :
        ∃ tag', tagOf item j = .ok tag' := by
      cases item <;> first | exact ⟨_, rfl⟩ | cases h
    obtain ⟨before, item, after, rfl, -, hitem⟩ :=
      (mapM_zipIdx_eq_error_iff (f := tagOf) hplace).1 h
    have hat : Section.tags.valueAt? root (some before.length) = some item := by
      simp [Section.valueAt?, hitems]
    have hrefused : item.kind ≠ .string := by
      rintro hkind
      obtain ⟨text, rfl⟩ := exists_str_of_kind hkind
      cases hitem
    have he : e = .entry ⟨.tags, some before.length, none⟩ (.fieldType ⟨.string, item.kind⟩) := by
      cases item <;> first | exact (Except.error.inj hitem).symm | exact absurd rfl hrefused
    rw [he]
    exact shown_of_refused hat (beq_eq_false_iff_ne.2 hrefused)
  · next value hother hvalue =>
    rw [← Except.error.inj h]
    refine shown_of_refused hvalue ?_
    cases value <;> first | rfl | exact absurd rfl (hother _)

theorem shown_of_buildEntries {build : Entry → Except ConfigError α}
    (hpart : part.isRepeated = true) (hbuild : PlaceBlind build)
    (htruthful : ∀ entry, entry.part = part → Truthful entry (build entry))
    (h : buildEntries part build root = .error e) : e.Shown root := by
  have hat (before : List Value) (value : Value) (after : List Value)
      (hsections : root.sections part.name = before ++ value :: after) :
      part.valueAt? root (some before.length) = some value := by
    cases part with
    | rule | key | button => simp [Section.valueAt?, hsections]
    | appearance | layout | tags => cases hpart
  have hasked (i : Nat) : part.askedAt (some i) = .group := by
    cases part <;> first | rfl | cases hpart
  rcases (buildEntries_eq_error_iff hbuild).1 h with
    hentries | ⟨before, group, after, hgroups, -, hgroup⟩
  · obtain ⟨before, value, after, hsections, -, hvalue, rfl⟩ := entries_eq_error_iff.1 hentries
    rw [← hasked before.length]
    refine shown_of_refused (hat before value after hsections) ?_
    rw [hasked]
    exact beq_eq_false_iff_ne.2 hvalue
  · rw [List.map_append, List.map_cons] at hgroups
    have hplace := hat _ _ _ hgroups
    rw [List.length_map] at hplace
    exact (htruthful (entryAt part group before.length) rfl).shown hplace hgroup

end

/-- What a section is refused for is shown. -/
theorem Section.shown_of_error? {root : Group} {part : Section} {e : ConfigError}
    (h : part.error? root = some e) : e.Shown root := by
  cases part with
  | appearance =>
    have hbuild : buildAppearance root = .error e := errorOf?_eq_some_iff.1 h
    exact shown_of_onlySection hbuild (Or.inl rfl) rfl fun _ => truthful_appearanceOf rfl
  | layout =>
    have hbuild : buildLayout root = .error e := errorOf?_eq_some_iff.1 h
    exact shown_of_onlySection hbuild (Or.inr rfl) rfl fun _ => truthful_layoutSettingsOf rfl
  | tags => exact shown_of_buildTags (errorOf?_eq_some_iff.1 h)
  | rule =>
    exact shown_of_buildEntries rfl placeBlind_ruleOf (fun _ => truthful_ruleOf)
      (errorOf?_eq_some_iff.1 h)
  | key =>
    exact shown_of_buildEntries rfl placeBlind_keyCommandOf (fun _ => truthful_keyCommandOf)
      (errorOf?_eq_some_iff.1 h)
  | button =>
    exact shown_of_buildEntries rfl placeBlind_buttonCommandOf (fun _ => truthful_buttonCommandOf)
      (errorOf?_eq_some_iff.1 h)

/-- A build that fails tells a location and a defect, and the defect is there. -/
theorem reported_defect_shown {root : Group} {e : ConfigError} (h : build root = .error e) :
    ∃ location defect, e = .entry location defect ∧ location.Shows root defect := by
  rw [← errorOf?_eq_some_iff, errorOf?_build] at h
  obtain ⟨-, part, -, -, hpart, -⟩ := List.findSome?_eq_some_iff.1 h
  exact Section.shown_of_error? hpart

/-- The keys stand in an array and then alone, and the descriptor of the second has a later
value. -/
theorem reported_defect_shown_second_key :
    let root : Group :=
      [("key", .array [.group [("bind", .str "super+p"), ("func", .str "quit")]]),
        ("tags", .array []),
        ("key", .group [("bind", .str "super+q"), ("func", .str "quit"), ("bind", .str "hyper+q")])]
    let defect : Defect := .binding "hyper+q" (.unknownModifier "hyper")
    build root = .error (.entry ⟨.key, some 1, some "bind"⟩ defect) ∧
      Location.Shows root ⟨.key, some 1, some "bind"⟩ defect := by
  intro root defect
  have h : build root = .error (.entry ⟨.key, some 1, some "bind"⟩ defect) :=
    errorOf?_eq_some_iff.1 (by decide +kernel)
  obtain ⟨location, defect', he, hshows⟩ := reported_defect_shown h
  obtain ⟨rfl, rfl⟩ := ConfigError.entry.inj he
  exact ⟨h, hshows⟩

end TilingConfig
