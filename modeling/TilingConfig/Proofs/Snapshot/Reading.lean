import TilingConfig.Snapshot.Build

/-!
# What is read of an entry

Of an entry only the settings that its section knows are read, each by its last value. The
place of the entry is stamped on its defects and read by nothing. So two entries that agree
in the settings that are known come out the same: both with one value, or each with the
same defect at the same field, told at its own place. There is one lemma for each step of
the builder, and this statement is all that later modules use of these steps.
-/

namespace TilingConfig

open TilingConfig.Number

/-- The settings that are read of a section's group or groups. -/
def Section.fields : Section → List String
  | appearance => ["borderpx", "snap", "gappx", "showbar", "topbar", "fonts", "colors"]
  | layout => ["mfact", "nmaster", "resizehints", "lockfullscreen", "refreshrate"]
  | tags => []
  | rule => ["class", "instance", "title", "tagmask", "floating", "monitor"]
  | key => ["bind", "func", "cmd", "i", "f", "layout"]
  | button => ["click", "bind", "func", "cmd", "i", "f", "layout"]

/-- The settings that are read of the group of colours. -/
def schemeNames : List String := ["norm", "sel"]

/-- Two readings come out the same, each told at the place of its entry. -/
inductive SameReading {α : Type} (entry other : Entry) :
    Except ConfigError α → Except ConfigError α → Prop
  | ok (value : α) : SameReading entry other (.ok value) (.ok value)
  | fault (field : String) (defect : Defect) :
      SameReading entry other (.error (entry.fault field defect))
        (.error (other.fault field defect))

namespace SameReading

variable {α β : Type} {entry other : Entry}

theorem bind {result result' : Except ConfigError α} {next next' : α → Except ConfigError β}
    (hresult : SameReading entry other result result')
    (hnext : ∀ value, SameReading entry other (next value) (next' value)) :
    SameReading entry other (result >>= next) (result' >>= next') := by
  cases hresult with
  | ok value => exact hnext value
  | fault field defect => exact .fault field defect

/-- Which entry it was does not show in success. -/
theorem toOption_eq {result result' : Except ConfigError α}
    (h : SameReading entry other result result') : result.toOption = result'.toOption := by
  cases h <;> rfl

/-- At one place the results are one. -/
theorem eq_of_place {result result' : Except ConfigError α}
    (h : SameReading entry other result result') (hpart : entry.part = other.part)
    (hindex : entry.index = other.index) : result = result' := by
  cases h with
  | ok value => rfl
  | fault field defect => rw [Entry.fault, hpart, hindex, ← Entry.fault]

/-- What fails at one place fails at the other, and is told there. -/
theorem exists_fault {e : ConfigError} {result : Except ConfigError α}
    (h : SameReading entry other (.error e) result) :
    ∃ field defect, e = entry.fault field defect ∧ result = .error (other.fault field defect) := by
  generalize hleft : (Except.error e : Except ConfigError α) = left at h
  cases h with
  | ok value => cases hleft
  | fault field defect => exact ⟨field, defect, Except.error.inj hleft, rfl⟩

end SameReading

open SameReading

namespace Entry

variable {α : Type} {entry other : Entry} {field : String}

/-- Two entries have the same last values in some settings. -/
def AgreeOn (names : List String) (entry other : Entry) : Prop :=
  ∀ name ∈ names, entry.group.get? name = other.group.get? name

theorem AgreeOn.of_group (names : List String) (h : entry.group = other.group) :
    AgreeOn names entry other := fun name _ => by rw [h]

theorem AgreeOn.mono {names more : List String} (h : AgreeOn more entry other)
    (hsub : names ⊆ more) : AgreeOn names entry other := fun name hname => h name (hsub hname)

theorem sameReading_typed {result result' : Except Mismatch α} (h : result = result') :
    SameReading entry other (entry.typed field result) (other.typed field result') := by
  subst h
  cases result with
  | ok value => exact .ok value
  | error mismatch => exact .fault field _

/-- A setting of any kind that is not read in parts. -/
theorem sameReading_field? {expected : Kind} {take : Value → Option α}
    (h : entry.group.get? field = other.group.get? field) :
    SameReading entry other (entry.typed field (entry.group.field? field expected take))
      (other.typed field (other.group.field? field expected take)) :=
  sameReading_typed (by simp only [Group.field?, h])

theorem sameReading_strings? (h : entry.group.get? field = other.group.get? field) :
    SameReading entry other (entry.strings? field) (other.strings? field) :=
  sameReading_typed (by simp only [Group.strings?, h])

theorem sameReading_requireStr (h : entry.group.get? field = other.group.get? field) :
    SameReading entry other (entry.requireStr field) (other.requireStr field) :=
  .bind (sameReading_field? h) fun
    | some text => .ok text
    | none => .fault field _

theorem sameReading_uint? (h : entry.group.get? field = other.group.get? field) :
    SameReading entry other (entry.uint? field) (other.uint? field) := by
  refine .bind (sameReading_field? h) fun
    | none => .ok none
    | some i => ?_
  dsimp only
  split
  · exact .ok _
  · exact .fault field _

theorem sameReading_monitor? (h : entry.group.get? field = other.group.get? field) :
    SameReading entry other (entry.monitor? field) (other.monitor? field) := by
  refine .bind (sameReading_field? h) fun
    | none => .ok none
    | some i => ?_
  dsimp only
  split
  · exact .ok _
  · exact .fault field _

theorem sameReading_action (h : entry.group.get? "func" = other.group.get? "func") :
    SameReading entry other entry.action other.action := by
  refine .bind (sameReading_requireStr h) fun name => ?_
  cases Action.ofName? name with
  | some action => exact .ok action
  | none => exact .fault "func" _

theorem sameReading_argument (h : AgreeOn ["cmd", "i", "f", "layout"] entry other) :
    SameReading entry other entry.argument other.argument := by
  refine .bind (sameReading_field? (h "cmd" (by decide))) fun text => ?_
  refine .bind (sameReading_field? (h "i" (by decide))) fun int => ?_
  refine .bind (sameReading_field? (h "f" (by decide))) fun float => ?_
  refine .bind (sameReading_field? (h "layout" (by decide))) fun layout => ?_
  cases Argument.resolve text int (float.map Binary64.narrow) layout with
  | ok arg => exact .ok arg
  | error name => exact .fault "layout" _

theorem sameReading_binding (read : String → Except Binding.Error (Binding.Chord α))
    (h : entry.group.get? "bind" = other.group.get? "bind") :
    SameReading entry other (entry.binding read) (other.binding read) := by
  refine .bind (sameReading_requireStr h) fun input => ?_
  cases read input with
  | ok binding => exact .ok binding
  | error cause => exact .fault "bind" _

end Entry

open Entry

variable {entry other : Entry}

/-! ## The settings of an appearance -/

theorem sameReading_colorScheme (field : String) (colors : List String) :
    SameReading entry other (colorScheme entry field colors) (colorScheme other field colors) := by
  unfold colorScheme
  split
  · split
    · exact .fault field _
    · exact .ok _
  · exact .fault field _

theorem sameReading_colorSchemeOr {group group' : Group} {name : String} (old : ColorScheme)
    (h : group.get? name = group'.get? name) :
    SameReading entry other (colorSchemeOr entry group name old)
      (colorSchemeOr other group' name old) := by
  refine .bind (sameReading_typed (by simp only [Group.strings?, h])) fun
    | none => .ok old
    | some colors => sameReading_colorScheme _ colors

/-- What is read of the value for the colours: two settings if it is a group. -/
def schemesOf : Value → Value ⊕ List (Option Value)
  | .group settings => .inr (schemeNames.map (Group.get? settings))
  | value => .inl value

/-- Values for the colours read alike if they are one, or groups that give the same schemes. -/
theorem eq_or_groups_of_schemesOf {value value' : Value} (h : schemesOf value = schemesOf value') :
    value = value' ∨ ∃ group group' : Group, value = .group group ∧ value' = .group group' ∧
      ∀ name ∈ schemeNames, group.get? name = group'.get? name := by
  cases value with
  | group settings =>
    cases value' with
    | group settings' =>
      exact Or.inr ⟨settings, settings', rfl, rfl, List.map_inj_left.1 (Sum.inr.inj h)⟩
    | _ => cases h
  | _ => cases value' <;> first | exact Or.inl (Sum.inl.inj h) | cases h

theorem sameReading_colorsOr (old : Colors)
    (h : (entry.group.get? "colors").map schemesOf = (other.group.get? "colors").map schemesOf) :
    SameReading entry other (colorsOr entry old) (colorsOr other old) := by
  have hcases : entry.group.get? "colors" = other.group.get? "colors" ∨
      ∃ group group' : Group, entry.group.get? "colors" = some (.group group) ∧
        other.group.get? "colors" = some (.group group') ∧
        ∀ name ∈ schemeNames, group.get? name = group'.get? name := by
    cases hentry : entry.group.get? "colors" with
    | none =>
      rw [hentry] at h
      exact Or.inl (Option.map_eq_none_iff.1 h.symm).symm
    | some value =>
      rw [hentry] at h
      obtain ⟨value', hother, hvalue⟩ := Option.map_eq_some_iff.1 h.symm
      rw [hother]
      rcases eq_or_groups_of_schemesOf hvalue.symm with rfl | ⟨group, group', rfl, rfl, hgroup⟩
      · exact Or.inl rfl
      · exact Or.inr ⟨group, group', rfl, rfl, hgroup⟩
  unfold colorsOr
  rcases hcases with hsame | ⟨group, group', hentry, hother, hgroup⟩
  · refine .bind (sameReading_field? hsame) fun
      | none => .ok old
      | some group => ?_
    exact .bind (sameReading_colorSchemeOr _ rfl) fun _ =>
      .bind (sameReading_colorSchemeOr _ rfl) fun _ => .ok _
  · simp only [Group.group?, Group.field?, hentry, hother, Value.group?, typed]
    change SameReading entry other (colorSchemeOr entry group "norm" old.norm >>= _)
      (colorSchemeOr other group' "norm" old.norm >>= _)
    exact .bind (sameReading_colorSchemeOr _ (hgroup "norm" (by decide))) fun _ =>
      .bind (sameReading_colorSchemeOr _ (hgroup "sel" (by decide))) fun _ => .ok _

theorem sameReading_appearanceOf
    (h : AgreeOn ["borderpx", "snap", "gappx", "showbar", "topbar", "fonts"] entry other)
    (hcolors :
      (entry.group.get? "colors").map schemesOf = (other.group.get? "colors").map schemesOf) :
    SameReading entry other (appearanceOf entry) (appearanceOf other) :=
  .bind (sameReading_uint? (h "borderpx" (by decide))) fun _ =>
    .bind (sameReading_uint? (h "snap" (by decide))) fun _ =>
      .bind (sameReading_uint? (h "gappx" (by decide))) fun _ =>
        .bind (sameReading_field? (h "showbar" (by decide))) fun _ =>
          .bind (sameReading_field? (h "topbar" (by decide))) fun _ =>
            .bind (sameReading_strings? (h "fonts" (by decide))) fun _ =>
              .bind (sameReading_colorsOr _ hcolors) fun _ => .ok _

/-! ## The other sections -/

theorem sameReading_masterFactor? (h : entry.group.get? "mfact" = other.group.get? "mfact") :
    SameReading entry other (masterFactor? entry) (masterFactor? other) := by
  refine .bind (sameReading_field? h) fun
    | none => .ok none
    | some factor => ?_
  dsimp only
  split
  · exact .fault "mfact" _
  · exact .ok _

theorem sameReading_layoutSettingsOf (h : AgreeOn Section.layout.fields entry other) :
    SameReading entry other (layoutSettingsOf entry) (layoutSettingsOf other) :=
  .bind (sameReading_masterFactor? (h "mfact" (by decide))) fun _ =>
    .bind (sameReading_uint? (h "nmaster" (by decide))) fun _ =>
      .bind (sameReading_field? (h "resizehints" (by decide))) fun _ =>
        .bind (sameReading_field? (h "lockfullscreen" (by decide))) fun _ =>
          .bind (sameReading_uint? (h "refreshrate" (by decide))) fun _ => .ok _

theorem sameReading_ruleOf (h : AgreeOn Section.rule.fields entry other) :
    SameReading entry other (ruleOf entry) (ruleOf other) :=
  .bind (sameReading_field? (h "class" (by decide))) fun _ =>
    .bind (sameReading_field? (h "instance" (by decide))) fun _ =>
      .bind (sameReading_field? (h "title" (by decide))) fun _ =>
        .bind (sameReading_uint? (h "tagmask" (by decide))) fun _ =>
          .bind (sameReading_field? (h "floating" (by decide))) fun _ =>
            .bind (sameReading_monitor? (h "monitor" (by decide))) fun _ => .ok _

theorem sameReading_keyCommandOf (h : AgreeOn Section.key.fields entry other) :
    SameReading entry other (keyCommandOf entry) (keyCommandOf other) :=
  .bind (sameReading_binding _ (h "bind" (by decide))) fun _ =>
    .bind (sameReading_action (h "func" (by decide))) fun _ =>
      .bind (sameReading_argument (h.mono (by decide))) fun _ => .ok _

theorem sameReading_clickOf (h : entry.group.get? "click" = other.group.get? "click") :
    SameReading entry other (clickOf entry) (clickOf other) := by
  refine .bind (sameReading_requireStr h) fun name => ?_
  cases Click.ofName? name with
  | some click => exact .ok click
  | none => exact .fault "click" _

theorem sameReading_buttonCommandOf (h : AgreeOn Section.button.fields entry other) :
    SameReading entry other (buttonCommandOf entry) (buttonCommandOf other) :=
  .bind (sameReading_clickOf (h "click" (by decide))) fun _ =>
    .bind (sameReading_binding _ (h "bind" (by decide))) fun _ =>
      .bind (sameReading_action (h "func" (by decide))) fun _ =>
        .bind (sameReading_argument (h.mono (by decide))) fun _ => .ok _

end TilingConfig
