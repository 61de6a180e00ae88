import TilingConfig.Proofs.Binding.Name
import TilingConfig.Proofs.Binding.WrittenForm

/-!
# Reading a modifier sequence

The recursive reader of modifiers against their written form. What it reads is a
non-empty written sequence, taken as far as it goes; and it reads every written
sequence behind which no further modifier stands.
-/

namespace TilingConfig.Binding

open TilingConfig.Text

/-- No modifier sequence goes on here: the reader fails, and not with a word that is followed by a
plus sign. -/
def EndsModifiers (text : List Char) : Prop :=
  ∃ e, modifiers text = .error e ∧
    ∀ name, e = .unknownModifier name → wordPrecedesPlus text = false

/-- The name of a modifier in front is found, whatever follows it. -/
theorem find?_registry_append {entry : String × ModMask} (h : entry ∈ ModMask.registry)
    (rest : List Char) :
    (ModMask.registry.find? fun other => other.1.toList.isPrefixOf (entry.1.toList ++ rest)) =
      some entry := by
  simp only [ModMask.registry, List.mem_cons, List.not_mem_nil, or_false] at h
  rcases h with rfl | rfl | rfl | rfl <;> rfl

/-- Reading a written modifier gives it, and leaves its plus sign in front. -/
theorem modifier_chars_append (held : HeldModifier) (rest : List Char) :
    modifier (held.chars ++ rest) = .ok (held.entry.2, '+' :: (held.after ++ rest)) := by
  have hflush : IsFlush ('+' :: (held.after ++ rest)) := by
    intro c hc
    have he : '+' = c := by simpa using hc
    exact he ▸ rfl
  have hchars : held.chars ++ rest =
      held.entry.1.toList ++ (held.before ++ '+' :: (held.after ++ rest)) := by
    simp only [HeldModifier.chars, List.append_assoc, List.cons_append]
  rw [modifier, hchars, find?_registry_append held.mem_registry]
  simp only [List.drop_left]
  rw [trimStart_gap_append held.isGap_before hflush]

/-- What a read modifier leaves is the text behind its name and a gap. -/
theorem exists_of_modifier_eq_ok {text rest : List Char} {mask : ModMask}
    (h : modifier text = .ok (mask, rest)) :
    ∃ entry ∈ ModMask.registry, ∃ gap, IsGap gap ∧ entry.2 = mask ∧
      text = entry.1.toList ++ gap ++ rest := by
  unfold modifier at h
  split at h
  · rename_i name found hfind
    have hmem := List.mem_of_find?_eq_some hfind
    have hprefix : name.toList.isPrefixOf text = true := by simpa using List.find?_some hfind
    obtain ⟨behind, rfl⟩ := List.isPrefixOf_iff_prefix.1 hprefix
    obtain ⟨rfl, rfl⟩ : found = mask ∧ trimStart behind = rest := by simpa using h
    obtain ⟨gap, hgap, hbehind⟩ := exists_gap_append_trimStart behind
    exact ⟨(name, found), hmem, gap, hgap, rfl, by rw [List.append_assoc, ← hbehind]⟩
  · split at h <;> cases h

/-- A modifier that is followed by a plus sign is a written modifier. -/
theorem exists_heldModifier {text rest : List Char} {mask : ModMask}
    (h : modifier text = .ok (mask, '+' :: rest)) :
    ∃ held : HeldModifier, held.entry.2 = mask ∧ text = held.chars ++ trimStart rest := by
  obtain ⟨entry, hmem, before, hbefore, hmask, rfl⟩ := exists_of_modifier_eq_ok h
  obtain ⟨after, hafter, hrest⟩ := exists_gap_append_trimStart rest
  refine ⟨⟨entry, before, after, hmem, hbefore, hafter⟩, hmask, ?_⟩
  simp only [HeldModifier.chars, List.append_assoc, List.cons_append, ← hrest]

/-- One step of the reader on a written modifier. -/
theorem modifiers_chars_append (held : HeldModifier) {rest : List Char} (hflush : IsFlush rest) :
    modifiers (held.chars ++ rest) =
      match modifiers rest with
      | .ok (more, after) => .ok (held.entry.2 ∪ more, after)
      | .error (.unknownModifier name) =>
        if wordPrecedesPlus rest then .error (.unknownModifier name)
        else .ok (held.entry.2, rest)
      | .error _ => .ok (held.entry.2, rest) := by
  have hnext : trimStart (held.after ++ rest) = rest :=
    trimStart_gap_append held.isGap_after hflush
  rw [modifiers, modifier_chars_append]
  cases hrest : modifiers rest with
  | ok result => simp only [hnext, hrest]
  | error e => cases e <;> simp only [hnext, hrest]

/-- A written modifier behind which the sequence ends is read, and nothing more. -/
theorem modifiers_chars_append_of_ends (held : HeldModifier) {rest : List Char}
    (hflush : IsFlush rest) (hends : EndsModifiers rest) :
    modifiers (held.chars ++ rest) = .ok (held.entry.2, rest) := by
  obtain ⟨e, he, hword⟩ := hends
  rw [modifiers_chars_append held hflush, he]
  cases e with
  | unknownModifier name => simp only [hword name rfl, Bool.false_eq_true, if_false]
  | unknownKey name => rfl
  | unknownButton name => rfl
  | malformed why => rfl

/-- What the reader of modifiers has read is a non-empty written sequence, and it ends there. -/
theorem exists_of_modifiers_eq_ok {text rest : List Char} {mask : ModMask}
    (h : modifiers text = .ok (mask, rest)) :
    ∃ held, held ≠ [] ∧ text = held.flatMap HeldModifier.chars ++ rest ∧ maskOf held = mask ∧
      IsFlush rest ∧ EndsModifiers rest := by
  fun_induction modifiers text generalizing mask rest with
  | case1 text e hmod => cases h
  | case2 text first behind hmod next more after hnext =>
    rename_i ih
    obtain ⟨rfl, rfl⟩ : first ∪ more = mask ∧ after = rest := by simpa using h
    obtain ⟨one, rfl, rfl⟩ := exists_heldModifier hmod
    obtain ⟨held, _, htext, rfl, hflush, hends⟩ := ih hnext
    refine ⟨one :: held, List.cons_ne_nil _ _, ?_, rfl, hflush, hends⟩
    rw [List.flatMap_cons, List.append_assoc, ← htext]
  | case3 text first behind hmod next name hnext hplus => cases h
  | case4 text first behind hmod next name hnext hplus =>
    obtain ⟨rfl, rfl⟩ : first = mask ∧ next = rest := by simpa using h
    obtain ⟨one, rfl, rfl⟩ := exists_heldModifier hmod
    refine ⟨[one], List.cons_ne_nil _ _, by simp [next], by simp [maskOf],
      isFlush_trimStart behind, ?_⟩
    exact ⟨_, hnext, fun _ _ => Bool.eq_false_iff.2 hplus⟩
  | case5 text first behind hmod next e hother hnext =>
    obtain ⟨rfl, rfl⟩ : first = mask ∧ next = rest := by simpa using h
    obtain ⟨one, rfl, rfl⟩ := exists_heldModifier hmod
    refine ⟨[one], List.cons_ne_nil _ _, by simp [next], by simp [maskOf],
      isFlush_trimStart behind, ?_⟩
    exact ⟨e, hnext, fun name he => absurd he (hother name)⟩
  | case6 text first behind hplain hmod => cases h

/-- Every written sequence behind which the modifiers end is read. -/
theorem modifiers_flatMap_chars {held : List HeldModifier} (hne : held ≠ []) {rest : List Char}
    (hflush : IsFlush rest) (hends : EndsModifiers rest) :
    modifiers (held.flatMap HeldModifier.chars ++ rest) = .ok (maskOf held, rest) := by
  induction held with
  | nil => exact absurd rfl hne
  | cons first others ih =>
    rw [List.flatMap_cons, List.append_assoc]
    cases others with
    | nil =>
      rw [List.flatMap_nil, List.nil_append, modifiers_chars_append_of_ends first hflush hends]
      simp only [maskOf, ModMask.union_none]
    | cons second others =>
      have hread := ih (List.cons_ne_nil _ _)
      have hstart : IsFlush ((second :: others).flatMap HeldModifier.chars ++ rest) := by
        have hword := isWord_of_mem_registry second.mem_registry
        simp only [List.flatMap_cons, HeldModifier.chars, List.append_assoc]
        exact hword.isInk.isFlush_append hword.1 _
      rw [modifiers_chars_append first hstart, hread]
      rfl

/-- A text without a plus sign holds no modifier sequence, and no word before a plus sign. -/
theorem endsModifiers_of_not_mem_plus {text : List Char} (h : '+' ∉ text) :
    EndsModifiers text := by
  have hfails : ∀ result, modifiers text ≠ .ok result := by
    rintro ⟨mask, rest⟩ hread
    obtain ⟨held, hne, rfl, -, -, -⟩ := exists_of_modifiers_eq_ok hread
    obtain ⟨first, others, rfl⟩ := List.exists_cons_of_ne_nil hne
    simp [HeldModifier.chars] at h
  have hplain : wordPrecedesPlus text = false := by
    have hsub : trimStart (text.drop (word text).length) ⊆ text :=
      List.Subset.trans (List.dropWhile_sublist _).subset (List.drop_subset _ _)
    rw [wordPrecedesPlus, beq_eq_false_iff_ne]
    intro hhead
    exact h (hsub (List.mem_of_mem_head? hhead))
  cases hread : modifiers text with
  | ok result => exact absurd hread (hfails result)
  | error e => exact ⟨e, hread, fun _ _ => hplain⟩

end TilingConfig.Binding
