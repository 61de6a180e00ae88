import TilingConfig.Proofs.Snapshot.Repeated

/-!
# Sections that are given in parts

The entries of a repeated section may be given in several files, each in any way: in one
array, in several, one by one. Joined settings are passed over as their parts are, one after
the other, so that nothing is lost, doubled or moved; and an entry that is at fault in the
second part is told at its place among all entries.
-/

namespace TilingConfig

/-- A pass over the entries of a section goes through joined settings part by part. -/
structure Concatenates {α : Type} (part : Section) (pass : Group → Except ConfigError (List α)) :
    Prop where
  /-- How the entries are written does not count. -/
  eq_of_sections_eq : ∀ g h : Group, g.sections part.name = h.sections part.name → pass g = pass h
  /-- Joined settings pass if both parts do, and give what the parts give. -/
  append_eq_ok_iff : ∀ (g h : Group) (values : List α), pass (g ++ h) = .ok values ↔
    ∃ front rear, pass g = .ok front ∧ pass h = .ok rear ∧ values = front ++ rear
  /-- A fault of the second part is told at an entry, and in joined settings as many places later as
  the first part has entries. -/
  append_eq_error : ∀ (g h : Group) (front : List α) (e : ConfigError), pass g = .ok front →
    pass h = .error e → ∃ i field defect, e = .entry ⟨part, some i, field⟩ defect ∧
      pass (g ++ h) =
        .error (.entry ⟨part, some (i + (g.sections part.name).length), field⟩ defect)

section

variable {α : Type} {part : Section} {build : Entry → Except ConfigError α}

theorem buildEntries_append_eq_ok_iff (hbuild : PlaceBlind build) {g h : Group} {values : List α} :
    buildEntries part build (g ++ h) = .ok values ↔ ∃ front rear,
      buildEntries part build g = .ok front ∧ buildEntries part build h = .ok rear ∧
        values = front ++ rear := by
  simp only [buildEntries_eq_ok_iff hbuild, Group.sections_append]
  constructor
  · rintro ⟨groups, hgroups, hvalues⟩
    obtain ⟨first, second, rfl, hfirst, hsecond⟩ := List.map_eq_append_iff.1 hgroups.symm
    obtain ⟨front, rear, hfront, hrear, rfl⟩ := mapM_append_eq_ok_iff.1 hvalues
    exact ⟨front, rear, ⟨first, hfirst.symm, hfront⟩, ⟨second, hsecond.symm, hrear⟩, rfl⟩
  · rintro ⟨front, rear, ⟨first, hfirst, hfront⟩, ⟨second, hsecond, hrear⟩, rfl⟩
    refine ⟨first ++ second, ?_, mapM_append_eq_ok_iff.2 ⟨front, rear, hfront, hrear, rfl⟩⟩
    rw [hfirst, hsecond, List.map_append]

theorem buildEntries_append_eq_error (hbuild : PlaceBlind build) {g h : Group} {front : List α}
    {e : ConfigError} (hg : buildEntries part build g = .ok front)
    (hh : buildEntries part build h = .error e) :
    ∃ i field defect, e = .entry ⟨part, some i, field⟩ defect ∧
      buildEntries part build (g ++ h) =
        .error (.entry ⟨part, some (i + (g.sections part.name).length), field⟩ defect) := by
  obtain ⟨first, hfirst, hbuilt⟩ := (buildEntries_eq_ok_iff hbuild).1 hg
  have hkinds : ∀ v ∈ g.sections part.name, v.kind = .group := by
    rw [hfirst]
    exact List.forall_mem_map.2 fun _ _ => rfl
  -- The second part fails in the first pass or in the second, and so do the joined settings.
  rcases (buildEntries_eq_error_iff hbuild).1 hh with hentries |
    ⟨before, group, after, hgroups, hbefore, hgroup⟩
  · obtain ⟨before, value, after, hsections, hbefore, hvalue, rfl⟩ :=
      entries_eq_error_iff.1 hentries
    refine ⟨before.length, none, _, rfl, (buildEntries_eq_error_iff hbuild).2 (Or.inl ?_)⟩
    refine entries_eq_error_iff.2 ⟨g.sections part.name ++ before, value, after, ?_,
      List.forall_mem_append.2 ⟨hkinds, hbefore⟩, hvalue, ?_⟩
    · rw [Group.sections_append, hsections, List.append_assoc]
    · rw [List.length_append, Nat.add_comm]
  · obtain ⟨field, defect, rfl, hplace⟩ :=
      hbuild.exists_fault before.length (first ++ before).length hgroup
    refine ⟨before.length, some field, defect, rfl,
      (buildEntries_eq_error_iff hbuild).2 (Or.inr ⟨first ++ before, group, after, ?_, ?_, ?_⟩)⟩
    · rw [Group.sections_append, hfirst, hgroups, ← List.map_append, List.append_assoc]
    · refine List.forall_mem_append.2 ⟨fun other hother => ?_, hbefore⟩
      obtain ⟨value, -, hvalue⟩ := (mapM_eq_ok hbuilt).1 other hother
      exact ⟨value, hvalue⟩
    · rw [hplace, hfirst, List.length_append, List.length_map, Nat.add_comm]

theorem concatenates_buildEntries (hbuild : PlaceBlind build) :
    Concatenates part (buildEntries part build) where
  eq_of_sections_eq _ _ := buildEntries_congr
  append_eq_ok_iff _ _ _ := buildEntries_append_eq_ok_iff hbuild
  append_eq_error _ _ _ _ hg hh := buildEntries_append_eq_error hbuild hg hh

end

/-- The rules, the keys and the buttons of joined settings are those of the first followed by those
of the second, however either writes them. -/
theorem repeated_sections_concatenate :
    Concatenates .rule buildRules ∧ Concatenates .key buildKeys ∧
      Concatenates .button buildButtons :=
  ⟨concatenates_buildEntries placeBlind_ruleOf, concatenates_buildEntries placeBlind_keyCommandOf,
    concatenates_buildEntries placeBlind_buttonCommandOf⟩

end TilingConfig
