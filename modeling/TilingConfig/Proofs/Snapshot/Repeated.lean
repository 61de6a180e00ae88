import TilingConfig.Proofs.Snapshot.Reading
import TilingConfig.Proofs.Snapshot.Success

/-!
# Repeated sections

A repeated section is built in two passes over its entries: all of them have to be groups,
and then each is built. Either pass stops at its first failure, so the section fails at the
first entry that is no group, or, when all are groups, at the first that is not built.
-/

namespace TilingConfig

/-! ## Lists of steps that can fail -/

section

variable {ε α β : Type} {f : α → Except ε β}

/-- Two steps fail if the first does, or the second with what the first gives. -/
theorem bind_eq_error_iff {result : Except ε α} {next : α → Except ε β} {e : ε} :
    result >>= next = .error e ↔
      result = .error e ∨ ∃ middle, result = .ok middle ∧ next middle = .error e := by
  cases result with
  | error e' =>
    have hbind : (.error e' >>= next : Except ε β) = .error e' := rfl
    rw [hbind]
    simp
  | ok middle =>
    have hbind : (.ok middle >>= next : Except ε β) = next middle := rfl
    rw [hbind]
    simp

/-- A step for each element of a list fails as its first failing element does. -/
theorem mapM_eq_error_iff {items : List α} {e : ε} :
    items.mapM f = .error e ↔ ∃ before item after, items = before ++ item :: after ∧
      (∀ x ∈ before, ∃ value, f x = .ok value) ∧ f item = .error e := by
  induction items with
  | nil =>
    constructor
    · intro h
      cases h
    · rintro ⟨before, item, after, h, -⟩
      cases before <;> cases h
  | cons first rest ih =>
    rw [List.mapM_cons, bind_eq_error_iff]
    simp only [bind_eq_error_iff, ih]
    constructor
    · rintro (hfirst | ⟨value, hfirst, ⟨before, item, after, rfl, hbefore, hitem⟩ | ⟨_, -, h⟩⟩)
      · exact ⟨[], first, rest, rfl, List.forall_mem_nil _, hfirst⟩
      · exact ⟨first :: before, item, after, rfl, List.forall_mem_cons.2 ⟨⟨value, hfirst⟩, hbefore⟩,
          hitem⟩
      · cases h
    · rintro ⟨_ | ⟨head, before⟩, item, after, h, hbefore, hitem⟩
      · obtain ⟨rfl, rfl⟩ := List.cons.inj h
        exact Or.inl hitem
      · obtain ⟨rfl, rfl⟩ := List.cons.inj h
        obtain ⟨⟨value, hfirst⟩, hbefore⟩ := List.forall_mem_cons.1 hbefore
        exact Or.inr ⟨value, hfirst, Or.inl ⟨before, item, after, rfl, hbefore, hitem⟩⟩

/-- The same for steps that are told the place of their element, if it does not count for
success. -/
theorem mapM_zipIdx_eq_error_iff {f : α → Nat → Except ε β}
    (hf : ∀ {item value} i j, f item i = .ok value → ∃ value', f item j = .ok value')
    {items : List α} {e : ε} :
    items.zipIdx.mapM (fun (item, index) => f item index) = .error e ↔
      ∃ before item after, items = before ++ item :: after ∧
        (∀ x ∈ before, ∃ value, f x 0 = .ok value) ∧ f item before.length = .error e := by
  rw [mapM_eq_error_iff]
  constructor
  · rintro ⟨pairs, ⟨item, index⟩, others, hsplit, hbefore, hitem⟩
    obtain ⟨before, rest, hitems, rfl, hrest⟩ := List.zipIdx_eq_append_iff.1 hsplit
    obtain ⟨item', after, rfl, hpair, -⟩ := List.zipIdx_eq_cons_iff.1 hrest.symm
    obtain ⟨rfl, rfl⟩ := Prod.mk.inj hpair
    refine ⟨before, item, after, hitems, fun x hx => ?_, by simpa using hitem⟩
    obtain ⟨i, hi⟩ := List.mem_iff_getElem?.1 hx
    obtain ⟨value, hvalue⟩ := hbefore (x, i) (List.mk_mem_zipIdx_iff_getElem?.2 hi)
    exact hf i 0 hvalue
  · rintro ⟨before, item, after, rfl, hbefore, hitem⟩
    refine ⟨before.zipIdx, (item, before.length), after.zipIdx (before.length + 1), ?_, ?_, hitem⟩
    · rw [List.zipIdx_append, List.zipIdx_cons, Nat.zero_add]
    · rintro ⟨x, i⟩ hx
      obtain ⟨value, hvalue⟩ := hbefore x (List.fst_mem_of_mem_zipIdx hx)
      exact hf 0 i hvalue

/-- Steps that are told the place of their element, where it does not count for success, succeed as
the steps that are told none. -/
theorem mapM_zipIdx_eq_ok_iff {f : α → Nat → Except ε β}
    (hf : ∀ {item value} i j, f item i = .ok value → f item j = .ok value)
    {items : List α} {values : List β} :
    items.zipIdx.mapM (fun (item, index) => f item index) = .ok values ↔
      items.mapM (f · 0) = .ok values := by
  have hshift (start : Nat) :
      (items.zipIdx start).mapM (fun (item, index) => f item index) = .ok values ↔
        items.mapM (f · 0) = .ok values := by
    induction items generalizing values start with
    | nil => rfl
    | cons first rest ih =>
      have hfirst (value : β) : f first start = .ok value ↔ f first 0 = .ok value :=
        ⟨hf start 0, hf 0 start⟩
      simp only [List.zipIdx_cons, List.mapM_cons, bind_eq_ok_iff, ih, hfirst]
  exact hshift 0

/-- The steps for a joined list succeed if those for both parts do, with the joined values. -/
theorem mapM_append_eq_ok_iff {items others : List α} {values : List β} :
    (items ++ others).mapM f = .ok values ↔ ∃ front rear,
      items.mapM f = .ok front ∧ others.mapM f = .ok rear ∧ values = front ++ rear := by
  rw [List.mapM_append]
  simp only [bind_eq_ok_iff]
  constructor
  · rintro ⟨front, hfront, rear, hrear, h⟩
    exact ⟨front, rear, hfront, hrear, (Except.ok.inj h).symm⟩
  · rintro ⟨front, rear, hfront, hrear, rfl⟩
    exact ⟨front, hfront, rear, hrear, rfl⟩

/-- When the steps for a list succeed, each element has given a value, and each value is from an
element. -/
theorem mapM_eq_ok {items : List α} {values : List β} (h : items.mapM f = .ok values) :
    (∀ item ∈ items, ∃ value ∈ values, f item = .ok value) ∧
      ∀ value ∈ values, ∃ item ∈ items, f item = .ok value := by
  induction items generalizing values with
  | nil =>
    obtain rfl := Except.ok.inj h
    exact ⟨List.forall_mem_nil _, List.forall_mem_nil _⟩
  | cons first rest ih =>
    rw [List.mapM_cons] at h
    obtain ⟨value, hfirst, h⟩ := bind_eq_ok_iff.1 h
    obtain ⟨others, hrest, h⟩ := bind_eq_ok_iff.1 h
    obtain rfl := Except.ok.inj h
    obtain ⟨hitems, hvalues⟩ := ih hrest
    constructor
    · refine List.forall_mem_cons.2 ⟨⟨value, List.mem_cons_self, hfirst⟩, fun item hitem => ?_⟩
      obtain ⟨other, hother, hstep⟩ := hitems item hitem
      exact ⟨other, List.mem_cons_of_mem _ hother, hstep⟩
    · refine List.forall_mem_cons.2 ⟨⟨first, List.mem_cons_self, hfirst⟩, fun other hother => ?_⟩
      obtain ⟨item, hitem, hstep⟩ := hvalues other hother
      exact ⟨item, List.mem_cons_of_mem _ hitem, hstep⟩

/-- Steps in a row for each element can be taken together. -/
theorem mapM_map_bind_mapM {γ : Type} (g : β → Except ε γ) (items : List α) :
    (items.mapM f >>= fun values => values.mapM g) =
      items.mapM (fun item => (f item).map g) >>= fun steps => steps.mapM id := by
  have hmap : items.mapM (fun item => (f item).map g) = (items.mapM f).map (List.map g) := by
    induction items with
    | nil => rfl
    | cons first rest ih =>
      rw [List.mapM_cons, List.mapM_cons, ih]
      cases f first with
      | error e => rfl
      | ok value => cases rest.mapM f <;> rfl
  rw [hmap]
  cases items.mapM f with
  | error e => rfl
  | ok values =>
    have hmapM : (values.map g).mapM id = values.mapM g := List.mapM_map
    exact hmapM.symm

end

/-! ## Entries and their groups -/

/-- The sections whose entries are given one by one. -/
def Section.isRepeated : Section → Bool
  | rule | key | button => true
  | appearance | layout | tags => false

theorem exists_group_of_kind {value : Value} (h : value.kind = .group) :
    ∃ settings, value = .group settings := by
  cases value <;> first | exact ⟨_, rfl⟩ | cases h

theorem exists_groups_of_kind {values : List Value} (h : ∀ value ∈ values, value.kind = .group) :
    ∃ groups : List Group, values = groups.map Value.group := by
  induction values with
  | nil => exact ⟨[], rfl⟩
  | cons first rest ih =>
    obtain ⟨hfirst, hrest⟩ := List.forall_mem_cons.1 h
    obtain ⟨group, rfl⟩ := exists_group_of_kind hfirst
    obtain ⟨groups, rfl⟩ := ih hrest
    exact ⟨group :: groups, rfl⟩

variable {α : Type} {part : Section} {root : Group} {e : ConfigError}

/-- The entry of a group at its place. -/
def entryAt (part : Section) (group : Group) (index : Nat) : Entry := ⟨group, part, some index⟩

theorem entries_of_groups {groups : List Group}
    (h : root.sections part.name = groups.map Value.group) :
    entries root part = .ok (groups.zipIdx.map fun (group, index) => entryAt part group index) := by
  rw [entries, h, List.zipIdx_map, List.mapM_map]
  exact List.mapM_pure

/-- The entries of a section are refused as the first that is no group. -/
theorem entries_eq_error_iff :
    entries root part = .error e ↔ ∃ before value after,
      root.sections part.name = before ++ value :: after ∧ (∀ v ∈ before, v.kind = .group) ∧
        value.kind ≠ .group ∧
          e = .entry ⟨part, some before.length, none⟩ (.fieldType ⟨.group, value.kind⟩) := by
  have hplace {value : Value} {entry : Entry} (i j : Nat) (h : entryOf part value i = .ok entry) :
      ∃ entry', entryOf part value j = .ok entry' := by
    cases value <;> first | exact ⟨_, rfl⟩ | cases h
  have hok {value : Value} : (∃ entry, entryOf part value 0 = .ok entry) ↔ value.kind = .group := by
    cases value <;> simp [entryOf, Value.kind]
  have herror {value : Value} {index : Nat} : entryOf part value index = .error e ↔
      value.kind ≠ .group ∧
        e = .entry ⟨part, some index, none⟩ (.fieldType ⟨.group, value.kind⟩) := by
    cases value <;> simp [entryOf, Value.kind, eq_comm]
  refine (mapM_zipIdx_eq_error_iff (f := entryOf part) hplace).trans ?_
  simp only [hok, herror]

/-- When the entries are there, all of them are groups. -/
theorem kind_of_entries_ok {found : List Entry} (h : entries root part = .ok found) :
    ∀ value ∈ root.sections part.name, value.kind = .group := by
  intro value hvalue
  obtain ⟨i, hi⟩ := List.mem_iff_getElem?.1 hvalue
  obtain ⟨entry, -, hentry⟩ := (mapM_eq_ok h).1 (value, i) (List.mk_mem_zipIdx_iff_getElem?.2 hi)
  cases value <;> first | rfl | cases hentry

/-! ## Building the entries -/

/-- A builder that reads the group of an entry only; the place of the entry goes into defects. -/
def PlaceBlind (build : Entry → Except ConfigError α) : Prop :=
  ∀ entry other, entry.group = other.group → SameReading entry other (build entry) (build other)

theorem placeBlind_ruleOf : PlaceBlind ruleOf := fun _ _ h =>
  sameReading_ruleOf (.of_group _ h)

theorem placeBlind_keyCommandOf : PlaceBlind keyCommandOf := fun _ _ h =>
  sameReading_keyCommandOf (.of_group _ h)

theorem placeBlind_buttonCommandOf : PlaceBlind buttonCommandOf := fun _ _ h =>
  sameReading_buttonCommandOf (.of_group _ h)

variable {build : Entry → Except ConfigError α}

/-- A group that is built at one place is built at any other, with the same result. -/
theorem PlaceBlind.eq_ok (hbuild : PlaceBlind build) {group : Group} {value : α} (i j : Nat)
    (h : build (entryAt part group i) = .ok value) : build (entryAt part group j) = .ok value := by
  have hsame := (hbuild (entryAt part group i) (entryAt part group j) rfl).toOption_eq
  rw [h] at hsame
  exact toOption_eq_some_iff.1 hsame.symm

theorem PlaceBlind.exists_ok (hbuild : PlaceBlind build) {group : Group} {value : α} (i j : Nat)
    (h : build (entryAt part group i) = .ok value) :
    ∃ value', build (entryAt part group j) = .ok value' :=
  ⟨value, hbuild.eq_ok i j h⟩

/-- A group that is not built at one place is not built at any other, with the same defect. -/
theorem PlaceBlind.exists_fault (hbuild : PlaceBlind build) {group : Group} (i j : Nat)
    (h : build (entryAt part group i) = .error e) : ∃ field defect,
      e = .entry ⟨part, some i, some field⟩ defect ∧
        build (entryAt part group j) = .error (.entry ⟨part, some j, some field⟩ defect) := by
  have hsame := hbuild (entryAt part group i) (entryAt part group j) rfl
  rw [h] at hsame
  exact hsame.exists_fault

/-- What is built for a section depends on its entries, and not on how they are written. -/
theorem buildEntries_congr {other : Group}
    (h : root.sections part.name = other.sections part.name) :
    buildEntries part build root = buildEntries part build other := by
  rw [buildEntries, buildEntries, entries, entries, h]

/-- When all entries are groups, only the second pass is left. -/
theorem buildEntries_eq_mapM {groups : List Group}
    (h : root.sections part.name = groups.map Value.group) :
    buildEntries part build root =
      groups.zipIdx.mapM fun (group, index) => build (entryAt part group index) := by
  rw [buildEntries, entries_of_groups h]
  exact List.mapM_map

/-- When all entries are groups, the section is refused as the first that is not built. -/
theorem buildEntries_of_groups (hbuild : PlaceBlind build) {groups : List Group}
    (h : root.sections part.name = groups.map Value.group) :
    buildEntries part build root = .error e ↔ ∃ before group after,
      groups = before ++ group :: after ∧
        (∀ g ∈ before, ∃ value, build (entryAt part g 0) = .ok value) ∧
          build (entryAt part group before.length) = .error e := by
  rw [buildEntries_eq_mapM h]
  exact mapM_zipIdx_eq_error_iff (f := fun group index => build (entryAt part group index))
    hbuild.exists_ok

/-- A section is built if all its entries are groups and each of them is built. -/
theorem buildEntries_eq_ok_iff (hbuild : PlaceBlind build) {values : List α} :
    buildEntries part build root = .ok values ↔ ∃ groups : List Group,
      root.sections part.name = groups.map Value.group ∧
        groups.mapM (fun group => build (entryAt part group 0)) = .ok values := by
  have hmapM (groups : List Group) :
      groups.zipIdx.mapM (fun (group, index) => build (entryAt part group index)) = .ok values ↔
        groups.mapM (fun group => build (entryAt part group 0)) = .ok values :=
    mapM_zipIdx_eq_ok_iff (f := fun group index => build (entryAt part group index)) hbuild.eq_ok
  constructor
  · intro h
    obtain ⟨found, hfound, -⟩ := bind_eq_ok_iff.1 h
    obtain ⟨groups, hgroups⟩ := exists_groups_of_kind (kind_of_entries_ok hfound)
    rw [buildEntries_eq_mapM hgroups, hmapM] at h
    exact ⟨groups, hgroups, h⟩
  · rintro ⟨groups, hgroups, h⟩
    rwa [buildEntries_eq_mapM hgroups, hmapM]

/-- The first pass comes before the second: a section is refused as its first entry that is no
group, and when there is none, as the first that is not built. -/
theorem buildEntries_eq_error_iff (hbuild : PlaceBlind build) :
    buildEntries part build root = .error e ↔
      entries root part = .error e ∨ ∃ (before : List Group) (group : Group) (after : List Group),
        root.sections part.name = (before ++ group :: after).map Value.group ∧
          (∀ g ∈ before, ∃ value, build (entryAt part g 0) = .ok value) ∧
            build (entryAt part group before.length) = .error e := by
  cases hentries : entries root part with
  | error e' =>
    have hbuilt : buildEntries part build root = .error e' := by
      rw [buildEntries, hentries]
      rfl
    rw [hbuilt, Except.error.injEq, Except.error.injEq]
    refine ⟨Or.inl, ?_⟩
    rintro (h | ⟨before, group, after, hgroups, -⟩)
    · exact h
    · rw [entries_of_groups hgroups] at hentries
      cases hentries
  | ok found =>
    obtain ⟨groups, hgroups⟩ := exists_groups_of_kind (kind_of_entries_ok hentries)
    rw [buildEntries_of_groups hbuild hgroups, hgroups]
    simp only [reduceCtorEq, false_or, List.map_inj_right fun _ _ => Value.group.inj]

end TilingConfig
