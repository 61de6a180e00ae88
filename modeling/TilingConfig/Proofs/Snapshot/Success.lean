import TilingConfig.Snapshot.Build

/-!
# Successful builds

A build succeeds exactly if each of its steps does, so that the parts of a snapshot can be
looked at one by one.
-/

namespace TilingConfig

/-- Two steps succeed if the first does and the second does with what the first gives. -/
theorem bind_eq_ok_iff {ε α β : Type} {result : Except ε α} {next : α → Except ε β} {value : β} :
    result >>= next = .ok value ↔ ∃ middle, result = .ok middle ∧ next middle = .ok value := by
  cases result with
  | error e =>
    constructor
    · intro h
      cases h
    · rintro ⟨middle, h, -⟩
      cases h
  | ok middle =>
    constructor
    · exact fun h => ⟨middle, rfl, h⟩
    · rintro ⟨middle', h, hnext⟩
      rwa [← Except.ok.inj h] at hnext

theorem map_eq_ok_iff {ε α β : Type} {result : Except ε α} {f : α → β} {value : β} :
    result.map f = .ok value ↔ ∃ found, result = .ok found ∧ f found = value := by
  cases result <;> simp [Except.map]

/-- The value of a step that succeeds. -/
theorem toOption_eq_some_iff {ε α : Type} {result : Except ε α} {value : α} :
    result.toOption = some value ↔ result = .ok value := by
  cases result <;> simp [Except.toOption]

theorem map_toOption_eq_some_iff {ε α β : Type} {result : Except ε α} {f : α → β} {y : β} :
    result.toOption.map f = some y ↔ ∃ value, result = .ok value ∧ f value = y := by
  simp only [Option.map_eq_some_iff, toOption_eq_some_iff]

/-- A snapshot is built section by section. -/
theorem build_eq_ok_iff {root : Group} {snapshot : Snapshot} :
    build root = .ok snapshot ↔
      buildAppearance root = .ok snapshot.appearance ∧ buildLayout root = .ok snapshot.layout ∧
        buildTags root = .ok snapshot.tags ∧ buildRules root = .ok snapshot.rules ∧
          buildKeys root = .ok snapshot.keys ∧ buildButtons root = .ok snapshot.buttons := by
  obtain ⟨appearance, layout, tags, rules, keys, buttons⟩ := snapshot
  simp only [build, bind_eq_ok_iff, Except.ok.injEq, Snapshot.mk.injEq]
  constructor
  · rintro ⟨_, hAppearance, _, hLayout, _, hTags, _, hRules, _, hKeys, _, hButtons, rfl, rfl, rfl,
      rfl, rfl, rfl⟩
    exact ⟨hAppearance, hLayout, hTags, hRules, hKeys, hButtons⟩
  · rintro ⟨hAppearance, hLayout, hTags, hRules, hKeys, hButtons⟩
    exact ⟨_, hAppearance, _, hLayout, _, hTags, _, hRules, _, hKeys, _, hButtons, rfl, rfl, rfl,
      rfl, rfl, rfl⟩

namespace Entry

variable {α : Type} {entry : Entry} {field : String}

/-- A field is read if it has the right kind. -/
theorem typed_eq_ok_iff {result : Except Mismatch α} {value : α} :
    entry.typed field result = .ok value ↔ result = .ok value := by
  cases result with
  | error mismatch => simp [typed]
  | ok value' => simp [typed]

/-- A number is a floating-point number as it is, or a whole number rounded to one. -/
theorem float?_eq_some_iff {x : Number.Binary64} :
    entry.float? field = .ok (some x) ↔
      entry.group.get? field = some (.float x) ∨
        ∃ i : Int64, entry.group.get? field = some (.int i) ∧ x = .ofInt i.toInt := by
  rw [float?, typed_eq_ok_iff, Group.float?, Group.field?]
  cases entry.group.get? field with
  | none => simp
  | some value => cases value <;> simp [Value.float?, eq_comm]

end Entry

/-- The one section of a name is the last setting of it, if that is a group. -/
theorem onlySection?_eq_some_iff {root : Group} {part : Section} {entry : Entry} :
    onlySection? root part = .ok (some entry) ↔
      ∃ group, root.get? part.name = some (.group group) ∧ entry = ⟨group, part, none⟩ := by
  rw [onlySection?]
  cases root.get? part.name with
  | none => simp
  | some value => cases value <;> simp [eq_comm]

end TilingConfig
