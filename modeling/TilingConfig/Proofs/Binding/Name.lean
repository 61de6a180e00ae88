import TilingConfig.Binding.Descriptor

/-!
# Key names and modifier names

The names of keys and of modifiers are told apart by their beginnings: no name that
starts with a modifier name or with a plus sign is a key. That is why the reader may
compare modifier names over their own length only.
-/

namespace TilingConfig.Binding

open TilingConfig.Text

namespace Keysym

/-- A name that no entry of the table has is not found there. -/
theorem named?_eq_none {name : List Char} (h : ∀ entry ∈ names, entry.1.toList ≠ name) :
    named? name = none := by
  have hfind : names.find? (fun entry => entry.1.toList == name) = none := by
    rw [List.find?_eq_none]
    intro entry hentry heq
    exact h entry hentry (beq_iff_eq.1 heq)
  rw [named?, hfind, Option.map_none]

/-- No name of the table starts with the name of a modifier. -/
theorem named?_modifier_append {entry : String × ModMask} (h : entry ∈ ModMask.registry)
    (rest : List Char) : named? (entry.1.toList ++ rest) = none := by
  have htable : ∀ key ∈ names, ∀ modifier ∈ ModMask.registry,
      ¬ modifier.1.toList <+: key.1.toList := by decide +kernel
  apply named?_eq_none
  intro key hkey heq
  exact htable key hkey entry h (heq ▸ List.prefix_append _ _)

/-- No key has a name that starts with the name of a modifier. -/
theorem ofChars?_modifier_append {entry : String × ModMask} (h : entry ∈ ModMask.registry)
    (rest : List Char) : ofChars? (entry.1.toList ++ rest) = none := by
  have hnamed := named?_modifier_append h rest
  simp only [ModMask.registry, List.mem_cons, List.not_mem_nil, or_false] at h
  rcases h with rfl | rfl | rfl | rfl <;> rw [ofChars?, hnamed] <;> rfl

/-- No key has a name that starts with a plus sign. -/
theorem ofChars?_plus_cons (rest : List Char) : ofChars? ('+' :: rest) = none := by
  have htable : ∀ key ∈ names, key.1.toList.head? ≠ some '+' := by decide +kernel
  have hnamed : named? ('+' :: rest) = none := by
    apply named?_eq_none
    intro key hkey heq
    exact htable key hkey (by rw [heq, List.head?_cons])
  have halpha : alphanumeric? ('+' :: rest) = none := by cases rest <;> rfl
  rw [ofChars?, hnamed, halpha]
  rfl

end Keysym

/-- No modifier name is the beginning of a button name. -/
theorem Button.name_ne_modifier_append {entry : String × ModMask} (h : entry ∈ ModMask.registry)
    (button : Button) (rest : List Char) : button.name.toList ≠ entry.1.toList ++ rest := by
  have hnames : ∀ modifier ∈ ModMask.registry, ¬ modifier.1.toList <+: button.name.toList := by
    cases button <;> decide
  intro he
  exact hnames entry h (he ▸ List.prefix_append _ _)

/-- A text names a button exactly when it is the name of that button. -/
theorem Button.ofName?_eq_some_iff (text : String) (button : Button) :
    Button.ofName? text = some button ↔ text = button.name := by
  constructor
  · intro h
    have hname := List.find?_some h
    exact (beq_iff_eq.1 hname).symm
  · rintro rfl
    exact Button.ofName?_name button

end TilingConfig.Binding
