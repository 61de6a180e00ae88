import TilingConfig.Proofs.Snapshot.Repeated

/-!
# Failed builds

A build fails at an entry or not at all: whatever the settings are, no other kind of
error comes out of them. Each section tells its own errors only, and the build fails as the
first section in order that does.
-/

namespace TilingConfig

variable {α β : Type}

/-- Every error of the result is at an entry. -/
def FailsAtEntry {α : Type} (result : Except ConfigError α) : Prop :=
  ∀ e, result = .error e → ∃ location defect, e = .entry location defect

/-- Every error of the result is told in one section. -/
def FailsIn (part : Section) (result : Except ConfigError α) : Prop :=
  ∀ e, result = .error e → ∃ index field defect, e = .entry ⟨part, index, field⟩ defect

namespace FailsIn

variable {part : Section}

theorem ok (value : α) : FailsIn part (.ok value) := fun e h => by cases h

theorem entry (index : Option Nat) (field : Option String) (defect : Defect) :
    FailsIn part (.error (.entry ⟨part, index, field⟩ defect) : Except ConfigError α) :=
  fun _ h => ⟨index, field, defect, (Except.error.inj h).symm⟩

theorem bind {result : Except ConfigError α} {next : α → Except ConfigError β}
    (hresult : FailsIn part result)
    (hnext : ∀ value, result = .ok value → FailsIn part (next value)) :
    FailsIn part (result >>= next) := by
  intro e h
  rcases bind_eq_error_iff.1 h with hfirst | ⟨middle, hfirst, hrest⟩
  · exact hresult e hfirst
  · exact hnext middle hfirst e hrest

/-- What is read of an entry fails in the section of the entry. -/
theorem of_sameReading {entry : Entry} {result : Except ConfigError α}
    (h : SameReading entry entry result result) : FailsIn entry.part result := by
  rintro e rfl
  obtain ⟨field, defect, rfl, -⟩ := h.exists_fault
  exact ⟨entry.index, some field, defect, rfl⟩

end FailsIn

variable (root : Group)

theorem failsIn_onlySection (part : Section) : FailsIn part (onlySection? root part) := by
  unfold onlySection?
  split
  · exact .ok _
  · exact .ok _
  · exact .entry _ _ _

/-- A section that is given once fails in that section. -/
theorem failsIn_of_onlySection {part : Section} {build : Option Entry → Except ConfigError α}
    (hnone : FailsIn part (build none))
    (hsome : ∀ entry, SameReading entry entry (build (some entry)) (build (some entry))) :
    FailsIn part (onlySection? root part >>= build) := by
  refine .bind (failsIn_onlySection root part) fun found hfound => ?_
  cases found with
  | none => exact hnone
  | some entry =>
    obtain ⟨group, -, rfl⟩ := onlySection?_eq_some_iff.1 hfound
    exact .of_sameReading (hsome _)

theorem failsIn_buildAppearance : FailsIn .appearance (buildAppearance root) :=
  failsIn_of_onlySection root (.ok _) fun _ =>
    sameReading_appearanceOf (.of_group _ rfl) rfl

theorem failsIn_buildLayout : FailsIn .layout (buildLayout root) :=
  failsIn_of_onlySection root (.ok _) fun _ => sameReading_layoutSettingsOf (.of_group _ rfl)

theorem failsIn_buildTags : FailsIn .tags (buildTags root) := by
  unfold buildTags
  split
  · exact .ok _
  · intro e h
    obtain ⟨_, ⟨value, index⟩, _, -, -, hvalue⟩ := mapM_eq_error_iff.1 h
    cases value <;> cases hvalue <;> exact ⟨_, _, _, rfl⟩
  · exact .entry _ _ _

theorem failsIn_buildEntries {part : Section} {build : Entry → Except ConfigError α}
    (hbuild : PlaceBlind build) : FailsIn part (buildEntries part build root) := by
  intro e h
  rcases (buildEntries_eq_error_iff hbuild).1 h with hentries | ⟨before, group, after, -, -, hgroup⟩
  · obtain ⟨_, value, _, -, -, -, rfl⟩ := entries_eq_error_iff.1 hentries
    exact ⟨_, _, _, rfl⟩
  · exact FailsIn.of_sameReading (hbuild (entryAt part group before.length) _ rfl) e hgroup

/-! ## The sections in order -/

/-- Sections have names of their own. -/
theorem Section.name_injective : Function.Injective Section.name := by
  intro part other h
  cases part <;> cases other <;> first | rfl | exact absurd h (by decide)

/-- The sections in the order in which they are built. -/
def Section.order : List Section := [.appearance, .layout, .tags, .rule, .key, .button]

theorem Section.mem_order (part : Section) : part ∈ Section.order := by
  cases part <;> decide

/-- The error of a result that failed. -/
def errorOf? {ε : Type} : Except ε α → Option ε
  | .ok _ => none
  | .error e => some e

theorem errorOf?_eq_some_iff {ε : Type} {result : Except ε α} {e : ε} :
    errorOf? result = some e ↔ result = .error e := by
  cases result <;> simp [errorOf?]

/-- What a section of a configuration is refused for. -/
def Section.error? (root : Group) : Section → Option ConfigError
  | appearance => errorOf? (buildAppearance root)
  | layout => errorOf? (buildLayout root)
  | tags => errorOf? (buildTags root)
  | rule => errorOf? (buildRules root)
  | key => errorOf? (buildKeys root)
  | button => errorOf? (buildButtons root)

/-- A section is built before the sections behind it. -/
theorem errorOf?_bind {part : Section} {rest : List Section} {result : Except ConfigError α}
    {next : α → Except ConfigError β} (hpart : part.error? root = errorOf? result)
    (hrest : ∀ value, errorOf? (next value) = rest.findSome? (Section.error? root)) :
    errorOf? (result >>= next) = (part :: rest).findSome? (Section.error? root) := by
  rw [List.findSome?_cons, hpart]
  cases result with
  | error e => rfl
  | ok value => exact hrest value

/-- A build fails as its first section that fails. -/
theorem errorOf?_build :
    errorOf? (build root) = Section.order.findSome? (Section.error? root) :=
  errorOf?_bind root rfl fun _ => errorOf?_bind root rfl fun _ => errorOf?_bind root rfl fun _ =>
    errorOf?_bind root rfl fun _ => errorOf?_bind root rfl fun _ => errorOf?_bind root rfl fun _ =>
      rfl

/-- A section tells its own errors. -/
theorem Section.exists_of_error? {part : Section} {e : ConfigError}
    (h : part.error? root = some e) :
    ∃ index field defect, e = .entry ⟨part, index, field⟩ defect := by
  cases part with
  | appearance => exact failsIn_buildAppearance root e (errorOf?_eq_some_iff.1 h)
  | layout => exact failsIn_buildLayout root e (errorOf?_eq_some_iff.1 h)
  | tags => exact failsIn_buildTags root e (errorOf?_eq_some_iff.1 h)
  | rule => exact failsIn_buildEntries root placeBlind_ruleOf e (errorOf?_eq_some_iff.1 h)
  | key => exact failsIn_buildEntries root placeBlind_keyCommandOf e (errorOf?_eq_some_iff.1 h)
  | button =>
    exact failsIn_buildEntries root placeBlind_buttonCommandOf e (errorOf?_eq_some_iff.1 h)

/-- A build fails at an entry or not at all. -/
theorem failsAtEntry_build : FailsAtEntry (build root) := by
  intro e h
  rw [← errorOf?_eq_some_iff, errorOf?_build] at h
  obtain ⟨_, part, _, -, hpart, -⟩ := List.findSome?_eq_some_iff.1 h
  obtain ⟨index, field, defect, rfl⟩ := Section.exists_of_error? root hpart
  exact ⟨_, _, rfl⟩

end TilingConfig
