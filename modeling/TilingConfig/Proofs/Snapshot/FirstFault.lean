import Mathlib.Data.List.TakeWhile
import TilingConfig.Proofs.Setting
import TilingConfig.Proofs.Snapshot.Failure

/-!
# The entry that is reported

A build that fails in a repeated section names one entry. All earlier sections resolve then,
and the entry does not resolve on its own either. It is the first such entry if all entries
of the section are groups; but a value that is no group is told before any group is looked
into, so it hides a group in front of it that does not resolve.
-/

namespace TilingConfig

/-- The sections that are built before a section. -/
def Section.earlier (part : Section) : List Section := Section.order.takeWhile (· != part)

/-- Whether a section of a configuration can be built. -/
def Section.resolves (root : Group) (part : Section) : Bool := (part.error? root).isNone

theorem Section.resolves_iff {root : Group} {part : Section} :
    part.resolves root = true ↔ part.error? root = none := by
  rw [resolves, Option.isNone_iff_eq_none]

/-- A configuration that holds one entry of a section and nothing else. -/
def Section.alone (part : Section) (value : Value) : Group := [(part.name, .array [value])]

theorem sections_alone (part : Section) (value : Value) :
    (part.alone value).sections part.name = [value] := by
  simp [Section.alone, Group.sections, Value.sections]

/-- The fault of a repeated section with these entries at one of them, where `alone?` is the error
of an entry alone: it is the first that is no group, or all are groups and it is the first that
does not resolve. -/
inductive FirstFault (part : Section) (alone? : Value → Option ConfigError)
    (all before : List Value) (value : Value) : Option String → Defect → Prop
  | notGroup (hbefore : ∀ v ∈ before, v.kind = .group) (hvalue : value.kind ≠ .group) :
      FirstFault part alone? all before value none (.fieldType ⟨.group, value.kind⟩)
  | unresolved {field : Option String} {defect : Defect} (hall : ∀ v ∈ all, v.kind = .group)
      (hbefore : ∀ v ∈ before, alone? v = none)
      (hvalue : alone? value = some (.entry ⟨part, some 0, field⟩ defect)) :
      FirstFault part alone? all before value field defect

/-! ## The error of a repeated section -/

section

variable {α : Type} {part : Section} {root : Group} {build : Entry → Except ConfigError α}
  {e : ConfigError}

/-- A group alone is refused as it is at its place. -/
theorem buildEntries_alone_group (hbuild : PlaceBlind build) (group : Group) :
    buildEntries part build (part.alone (.group group)) = .error e ↔
      build (entryAt part group 0) = .error e := by
  have hgroups : (part.alone (.group group)).sections part.name = [group].map Value.group :=
    sections_alone part _
  rw [buildEntries_of_groups hbuild hgroups]
  constructor
  · rintro ⟨before, other, after, hsplit, -, hother⟩
    obtain ⟨rfl, rfl, rfl⟩ : before = [] ∧ other = group ∧ after = [] := by
      simpa [List.singleton_eq_append_iff] using hsplit
    exact hother
  · exact fun h => ⟨[], group, [], rfl, List.forall_mem_nil _, h⟩

/-- A group resolves on its own if it is built at any place. -/
theorem exists_build_iff (hbuild : PlaceBlind build) (group : Group) :
    (∃ value, build (entryAt part group 0) = .ok value) ↔
      errorOf? (buildEntries part build (part.alone (.group group))) = none := by
  cases hgroup : build (entryAt part group 0) with
  | error e =>
    rw [errorOf?_eq_some_iff.2 ((buildEntries_alone_group hbuild group).2 hgroup)]
    simp
  | ok value =>
    cases halone : buildEntries part build (part.alone (.group group)) with
    | error e =>
      rw [(buildEntries_alone_group hbuild group).1 halone] at hgroup
      cases hgroup
    | ok values => simp [errorOf?]

/-- A repeated section is refused for its first fault. -/
theorem errorOf?_buildEntries_eq_some_iff (hbuild : PlaceBlind build) {i : Nat}
    {field : Option String} {defect : Defect} :
    errorOf? (buildEntries part build root) = some (.entry ⟨part, some i, field⟩ defect) ↔
      ∃ before value after, root.sections part.name = before ++ value :: after ∧
        before.length = i ∧
          FirstFault part (fun v => errorOf? (buildEntries part build (part.alone v)))
            (root.sections part.name) before value field defect := by
  rw [errorOf?_eq_some_iff, buildEntries_eq_error_iff hbuild, entries_eq_error_iff]
  constructor
  · rintro (⟨before, value, after, hsections, hbefore, hvalue, he⟩ |
      ⟨before, group, after, hsections, hbefore, hgroup⟩)
    · simp only [ConfigError.entry.injEq, Location.mk.injEq, Option.some.injEq, true_and] at he
      obtain ⟨⟨rfl, rfl⟩, rfl⟩ := he
      exact ⟨before, value, after, hsections, rfl, .notGroup hbefore hvalue⟩
    · obtain ⟨field', defect', he, halone⟩ := hbuild.exists_fault before.length 0 hgroup
      simp only [ConfigError.entry.injEq, Location.mk.injEq, Option.some.injEq, true_and] at he
      obtain ⟨⟨rfl, rfl⟩, rfl⟩ := he
      refine ⟨before.map Value.group, .group group, after.map Value.group, ?_, List.length_map _,
        .unresolved ?_ ?_ ?_⟩
      · rw [hsections, List.map_append, List.map_cons]
      · rw [hsections]
        exact List.forall_mem_map.2 fun _ _ => rfl
      · exact List.forall_mem_map.2 fun g hg => (exists_build_iff hbuild g).1 (hbefore g hg)
      · exact errorOf?_eq_some_iff.2 ((buildEntries_alone_group hbuild group).2 halone)
  · rintro ⟨before, value, after, hsections, rfl, hfault⟩
    cases hfault with
    | notGroup hbefore hvalue =>
      exact Or.inl ⟨before, value, after, hsections, hbefore, hvalue, rfl⟩
    | unresolved hall hbefore halone =>
      obtain ⟨groups, hgroups⟩ := exists_groups_of_kind hall
      obtain ⟨front, behind, rfl, rfl, hbehind⟩ :=
        List.map_eq_append_iff.1 (hgroups.symm.trans hsections)
      obtain ⟨group, rest, rfl, rfl, rfl⟩ := List.map_eq_cons_iff.1 hbehind
      refine Or.inr ⟨front, group, rest, hgroups, fun g hg => ?_, ?_⟩
      · exact (exists_build_iff hbuild g).2 (hbefore _ (List.mem_map_of_mem hg))
      · rw [errorOf?_eq_some_iff, buildEntries_alone_group hbuild] at halone
        obtain ⟨field', defect', he, hplace⟩ := hbuild.exists_fault 0 front.length halone
        obtain ⟨rfl, rfl⟩ : field = some field' ∧ defect = defect' := by simpa using he
        rw [hplace, List.length_map]

end

/-! ## The error of a whole build -/

/-- The repeated sections of a configuration are refused for their first faults. -/
theorem Section.error?_eq_some_iff {part : Section} {root : Group} {i : Nat}
    {field : Option String} {defect : Defect} (hpart : part.isRepeated = true) :
    part.error? root = some (.entry ⟨part, some i, field⟩ defect) ↔
      ∃ before value after, root.sections part.name = before ++ value :: after ∧
        before.length = i ∧ FirstFault part (fun v => part.error? (part.alone v))
          (root.sections part.name) before value field defect := by
  cases part with
  | appearance => cases hpart
  | layout => cases hpart
  | tags => cases hpart
  | rule => exact errorOf?_buildEntries_eq_some_iff placeBlind_ruleOf
  | key => exact errorOf?_buildEntries_eq_some_iff placeBlind_keyCommandOf
  | button => exact errorOf?_buildEntries_eq_some_iff placeBlind_buttonCommandOf

/-- The same for the entry at a place that is already known. -/
theorem Section.error?_eq_some_iff_of_split {part : Section} {root : Group}
    {before after : List Value} {value : Value} {field : Option String} {defect : Defect}
    (hpart : part.isRepeated = true)
    (hsections : root.sections part.name = before ++ value :: after) :
    part.error? root = some (.entry ⟨part, some before.length, field⟩ defect) ↔
      FirstFault part (fun v => part.error? (part.alone v)) (root.sections part.name) before value
        field defect := by
  rw [Section.error?_eq_some_iff hpart]
  constructor
  · rintro ⟨before', value', after', hsplit, hlength, hfault⟩
    obtain ⟨rfl, hrest⟩ := List.append_inj (hsplit.symm.trans hsections) hlength
    obtain ⟨rfl, rfl⟩ := List.cons.inj hrest
    exact hfault
  · exact fun hfault => ⟨before, value, after, hsections, rfl, hfault⟩

/-- An entry at fault does not resolve on its own. -/
theorem FirstFault.resolves_alone {part : Section} {all before : List Value} {value : Value}
    {field : Option String} {defect : Defect} (hpart : part.isRepeated = true)
    (hfault : FirstFault part (fun v => part.error? (part.alone v)) all before value field defect) :
    part.resolves (part.alone value) = false := by
  obtain ⟨field', halone⟩ : ∃ field', part.error? (part.alone value) =
      some (.entry ⟨part, some 0, field'⟩ defect) := by
    cases hfault with
    | notGroup hbefore hvalue =>
      have hsplit : (part.alone value).sections part.name = [] ++ value :: [] :=
        sections_alone part value
      have herror := (Section.error?_eq_some_iff_of_split hpart hsplit).2
        (.notGroup (List.forall_mem_nil _) hvalue)
      exact ⟨none, herror⟩
    | unresolved hall hbefore halone => exact ⟨field, halone⟩
  rw [Section.resolves, halone]
  rfl

/-- The sections before a section in their order, then the section itself. -/
theorem Section.exists_order_eq (part : Section) :
    ∃ later, Section.order = part.earlier ++ part :: later := by
  cases part <;> exact ⟨_, rfl⟩

/-- A build fails in a section exactly if the section fails and all earlier ones resolve. -/
theorem build_eq_error_iff {root : Group} {location : Location} {defect : Defect} :
    build root = .error (.entry location defect) ↔
      location.part.error? root = some (.entry location defect) ∧
        ∀ other ∈ location.part.earlier, other.error? root = none := by
  rw [← errorOf?_eq_some_iff, errorOf?_build, List.findSome?_eq_some_iff]
  constructor
  · rintro ⟨before, part, after, hsplit, hpart, hbefore⟩
    obtain ⟨index, field, defect', he⟩ := Section.exists_of_error? root hpart
    obtain ⟨rfl, rfl⟩ := ConfigError.entry.inj he
    have hne : ∀ other ∈ before, (other != part) = true := by
      intro other hother
      rw [bne_iff_ne]
      rintro rfl
      rw [hbefore other hother] at hpart
      cases hpart
    have hearlier : part.earlier = before := by
      rw [Section.earlier, hsplit, List.takeWhile_append_of_pos hne]
      simp
    rw [hearlier]
    exact ⟨hpart, hbefore⟩
  · rintro ⟨hpart, hbefore⟩
    obtain ⟨later, horder⟩ := location.part.exists_order_eq
    exact ⟨_, _, later, horder, hpart, hbefore⟩

/-- A section depends on what is given under its name. -/
theorem Section.error?_congr {part : Section} {root other : Group}
    (h : other.valuesOf part.name = root.valuesOf part.name) :
    part.error? other = part.error? root := by
  have hget := Group.get?_congr h
  have hsections := Group.sections_congr h
  cases part with
  | appearance => simp only [error?, buildAppearance, onlySection?, hget]
  | layout => simp only [error?, buildLayout, onlySection?, hget]
  | tags => simp only [error?, buildTags, hget]
  | rule | key | button => exact congrArg errorOf? (buildEntries_congr hsections)

/-- More entries stand behind those of a section, and all else is as it was. -/
structure Appends (part : Section) (root : Group) (added : List Value) (other : Group) : Prop where
  sections : other.sections part.name = root.sections part.name ++ added
  values : ∀ name, name ≠ part.name → other.valuesOf name = root.valuesOf name

theorem Section.ne_of_mem_earlier {part other : Section} (h : other ∈ part.earlier) :
    other ≠ part := by
  have hne := List.mem_takeWhile_imp h
  exact bne_iff_ne.1 hne

namespace Appends

variable {part : Section} {root other : Group} {added before after : List Value} {value : Value}
  {field : Option String} {defect : Defect}

/-- The error of a section stays if it is that of a value that is no group, or if only groups are
added; a value that is no group and comes later is told first otherwise. -/
theorem error?_eq_iff (h : Appends part root added other) (hpart : part.isRepeated = true)
    (hsections : root.sections part.name = before ++ value :: after)
    (he : part.error? root = some (.entry ⟨part, some before.length, field⟩ defect)) :
    part.error? other = part.error? root ↔ value.kind ≠ .group ∨ ∀ v ∈ added, v.kind = .group := by
  have hother : other.sections part.name = before ++ value :: (after ++ added) := by
    rw [h.sections, hsections, List.append_assoc, List.cons_append]
  rw [he, Section.error?_eq_some_iff_of_split hpart hother]
  cases (Section.error?_eq_some_iff_of_split hpart hsections).1 he with
  | notGroup hbefore hvalue => exact iff_of_true (.notGroup hbefore hvalue) (Or.inl hvalue)
  | unresolved hall hbefore halone =>
    have hvalue : value.kind = .group := by
      apply hall
      simp [hsections]
    have hgroups : (∀ v ∈ other.sections part.name, v.kind = .group) ↔
        ∀ v ∈ added, v.kind = .group := by
      rw [h.sections, List.forall_mem_append]
      exact and_iff_right hall
    rw [← hgroups]
    constructor
    · intro hfault
      cases hfault with
      | notGroup _ hkind => exact absurd hvalue hkind
      | unresolved hall' _ _ => exact Or.inr hall'
    · rintro (hkind | hall')
      · exact absurd hvalue hkind
      · exact .unresolved hall' hbefore halone

/-- What is added to a section leaves the earlier sections as they are. -/
theorem build_eq_iff (h : Appends part root added other)
    (he : build root = .error (.entry ⟨part, some before.length, field⟩ defect)) :
    build other = build root ↔ part.error? other = part.error? root := by
  obtain ⟨hpart, hearlier⟩ := build_eq_error_iff.1 he
  rw [he, hpart, build_eq_error_iff]
  apply and_iff_left
  intro earlier hmem
  have hname : earlier.name ≠ part.name := by
    intro hname
    exact Section.ne_of_mem_earlier hmem (Section.name_injective hname)
  rw [Section.error?_congr (h.values earlier.name hname)]
  exact hearlier earlier hmem

end Appends

/-- The entry that a build reports does not resolve on its own, and all earlier sections resolve.
If all entries of its section are groups it is the first that does not resolve. Otherwise it is the
first that is no group, whether those before it resolve or not. More entries behind leave the
error as it is unless one of them is the first that is no group. -/
theorem reported_entry_first_of_groups {root : Group} {part : Section} {i : Nat}
    {field : Option String} {defect : Defect} (hpart : part.isRepeated = true)
    (h : build root = .error (.entry ⟨part, some i, field⟩ defect)) :
    (∀ other ∈ part.earlier, other.resolves root = true) ∧
      ∃ before value after, root.sections part.name = before ++ value :: after ∧
        before.length = i ∧ part.resolves (part.alone value) = false ∧
        ((∀ v ∈ root.sections part.name, v.kind = .group) →
          ∀ v ∈ before, part.resolves (part.alone v) = true) ∧
        ((∃ v ∈ root.sections part.name, v.kind ≠ .group) →
          value.kind ≠ .group ∧ ∀ v ∈ before, v.kind = .group) ∧
        ∀ added other, Appends part root added other →
          (build other = build root ↔ value.kind ≠ .group ∨ ∀ v ∈ added, v.kind = .group) := by
  obtain ⟨herror, hearlier⟩ := build_eq_error_iff.1 h
  obtain ⟨before, value, after, hsections, rfl, hfault⟩ :=
    (Section.error?_eq_some_iff hpart).1 herror
  have hmem : value ∈ root.sections part.name := by simp [hsections]
  refine ⟨fun other hother => Section.resolves_iff.2 (hearlier other hother), before, value, after,
    hsections, rfl, hfault.resolves_alone hpart, ?_, ?_, ?_⟩
  · intro hall v hv
    cases hfault with
    | notGroup _ hvalue => exact absurd (hall value hmem) hvalue
    | unresolved _ hbefore _ => exact Section.resolves_iff.2 (hbefore v hv)
  · rintro ⟨v, hv, hkind⟩
    cases hfault with
    | notGroup hbefore hvalue => exact ⟨hvalue, hbefore⟩
    | unresolved hall _ _ => exact absurd (hall v hv) hkind
  · intro added other happends
    rw [happends.build_eq_iff h, happends.error?_eq_iff hpart hsections herror]

/-- A key that resolves, then one without an action: the second is reported, and it is the first
that does not resolve. -/
theorem reported_entry_first_of_groups_second_key :
    build [("key", .group [("bind", .str "super+p"), ("func", .str "quit")]),
        ("key", .group [("bind", .str "super+x")])] =
      .error (.entry ⟨.key, some 1, some "func"⟩ .missingField) ∧
    ∃ before value after,
      Group.sections [("key", .group [("bind", .str "super+p"), ("func", .str "quit")]),
        ("key", .group [("bind", .str "super+x")])] "key" = before ++ value :: after ∧
      before.length = 1 ∧ Section.key.resolves (Section.key.alone value) = false ∧
      ∀ v ∈ before, Section.key.resolves (Section.key.alone v) = true := by
  have h : build [("key", .group [("bind", .str "super+p"), ("func", .str "quit")]),
        ("key", .group [("bind", .str "super+x")])] =
      .error (.entry ⟨.key, some 1, some "func"⟩ .missingField) :=
    errorOf?_eq_some_iff.1 (by decide +kernel)
  obtain ⟨-, before, value, after, hsections, hlength, hvalue, hbefore, -⟩ :=
    reported_entry_first_of_groups rfl h
  exact ⟨h, before, value, after, hsections, hlength, hvalue, hbefore (by decide)⟩

/-- A key that does not resolve, then a number in the place of a key: the number is reported, and
not the key, which is reported as long as the number is not there. -/
theorem reported_entry_not_first :
    Group.sections [("key", .array [.group [], .int 5])] "key" = [.group [], .int 5] ∧
      build [("key", .array [.group [], .int 5])] =
        .error (.entry ⟨.key, some 1, none⟩ (.fieldType ⟨.group, .integer⟩)) ∧
      Section.key.resolves (Section.key.alone (.group [])) = false ∧
      build [("key", .array [.group []])] =
        .error (.entry ⟨.key, some 0, some "bind"⟩ .missingField) := by
  refine ⟨rfl, errorOf?_eq_some_iff.1 ?_, ?_, errorOf?_eq_some_iff.1 ?_⟩ <;> decide +kernel

end TilingConfig
