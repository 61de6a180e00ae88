import TilingConfig.Binding.Descriptor
import TilingConfig.Proofs.Binding.Mask
import TilingConfig.Proofs.Text.Gap

/-!
# The written form of a descriptor

The form that a descriptor has on the page, without any reading: a gap, modifiers that
each carry a plus sign, a name, and a gap. It is the second side of every statement on
what the reader accepts. The mask of a form depends on which modifiers occur in it only.
-/

namespace TilingConfig.Binding

open TilingConfig.Text

/-- A text that can stand as a name behind modifiers: not empty, without blanks and plus signs. -/
def IsWord (cs : List Char) : Prop :=
  cs ≠ [] ∧ ∀ c ∈ cs, isBlank c = false ∧ c ≠ '+'

theorem IsWord.isInk {cs : List Char} (h : IsWord cs) : IsInk cs := fun c hc => (h.2 c hc).1

theorem IsWord.not_mem_plus {cs : List Char} (h : IsWord cs) : '+' ∉ cs :=
  fun hc => (h.2 '+' hc).2 rfl

theorem isWord_of_all {cs : List Char} (hne : cs ≠ [])
    (hall : (cs.all fun c => !isBlank c && c != '+') = true) : IsWord cs := by
  refine ⟨hne, fun c hc => ?_⟩
  simpa using List.all_eq_true.1 hall c hc

/-- Every modifier name is a word. -/
theorem isWord_of_mem_registry {entry : String × ModMask} (h : entry ∈ ModMask.registry) :
    IsWord entry.1.toList := by
  simp only [ModMask.registry, List.mem_cons, List.not_mem_nil, or_false] at h
  rcases h with rfl | rfl | rfl | rfl <;> exact isWord_of_all (by decide) (by decide)

/-- Every button name is a word. -/
theorem Button.isWord_name (button : Button) : IsWord button.name.toList := by
  cases button <;> exact isWord_of_all (by decide) (by decide)

/-- A modifier as it is written: its name, a gap, a plus sign and a gap. -/
structure HeldModifier where
  /-- The name with its modifier. -/
  entry : String × ModMask
  /-- The gap before the plus sign. -/
  before : List Char
  /-- The gap behind the plus sign. -/
  after : List Char
  mem_registry : entry ∈ ModMask.registry
  isGap_before : IsGap before
  isGap_after : IsGap after

/-- The characters of a written modifier. -/
def HeldModifier.chars (held : HeldModifier) : List Char :=
  held.entry.1.toList ++ held.before ++ '+' :: held.after

/-- The modifiers of a written sequence, taken together. -/
def maskOf : List HeldModifier → ModMask
  | [] => .none
  | held :: rest => held.entry.2 ∪ maskOf rest

/-- A descriptor as it is written. -/
structure WrittenForm where
  /-- The gap in front. -/
  lead : List Char
  /-- The modifiers with their plus signs. -/
  held : List HeldModifier
  /-- The name of the key or button. -/
  name : String
  /-- The gap at the end. -/
  trail : List Char
  isGap_lead : IsGap lead
  isWord_name : IsWord name.toList
  isGap_trail : IsGap trail

namespace WrittenForm

/-- The characters of a written descriptor. -/
def chars (form : WrittenForm) : List Char :=
  form.lead ++ form.held.flatMap HeldModifier.chars ++ form.name.toList ++ form.trail

/-- The text of a written descriptor. -/
def text (form : WrittenForm) : String := String.ofList form.chars

/-- The modifiers of a written descriptor. -/
def mods (form : WrittenForm) : ModMask := maskOf form.held

/-- The modifier names that occur in a written descriptor, with repetitions and in order. -/
def modifierNames (form : WrittenForm) : List String := form.held.map fun held => held.entry.1

end WrittenForm

/-- The key descriptors: a bare name of a key, which may hold a plus sign, or modifiers and a word
that names a key. -/
def KeyDescriptor (text : String) (mods : ModMask) (key : Keysym) : Prop :=
  (∃ (lead : List Char) (name : String) (trail : List Char),
    text = String.ofList (lead ++ name.toList ++ trail) ∧ IsGap lead ∧ IsGap trail ∧
    name ≠ "" ∧ IsInk name.toList ∧ Keysym.ofName? name = some key ∧ mods = .none) ∨
  (∃ form : WrittenForm, text = form.text ∧ form.held ≠ [] ∧
    Keysym.ofName? form.name = some key ∧ mods = form.mods)

/-- The button descriptors: any modifiers and a button name. -/
def ButtonDescriptor (text : String) (mods : ModMask) (button : Button) : Prop :=
  ∃ form : WrittenForm, text = form.text ∧ Button.ofName? form.name = some button ∧
    mods = form.mods

/-- No plus sign stands in the name of a descriptor or behind it. -/
theorem WrittenForm.not_mem_plus_name_trail (form : WrittenForm) :
    '+' ∉ form.name.toList ++ form.trail := by
  rw [List.mem_append]
  rintro (hc | hc)
  · exact form.isWord_name.not_mem_plus hc
  · exact absurd (form.isGap_trail '+' hc) (by decide)

/-- Taking together the modifiers of a sequence is asking for each bit whether it occurs. -/
theorem bit_maskOf (held : List HeldModifier) (i : Nat) :
    (maskOf held).bit i = held.any fun one => one.entry.2.bit i := by
  induction held with
  | nil => exact ModMask.bit_none
  | cons first rest ih => rw [maskOf, ModMask.bit_union, ih, List.any_cons]

/-- Whatever modifiers are taken together, the mask has only bits of the protocol. -/
theorem hasProtocolBits_maskOf (held : List HeldModifier) : (maskOf held).HasProtocolBits := by
  induction held with
  | nil => exact ModMask.hasProtocolBits_none
  | cons first rest ih =>
    exact (ModMask.hasProtocolBits_of_mem_registry _ first.mem_registry).union ih

/-- A registry entry is told by its name. -/
theorem registry_entry_ext {a b : String × ModMask} (ha : a ∈ ModMask.registry)
    (hb : b ∈ ModMask.registry) (h : a.1 = b.1) : a = b := by
  simp only [ModMask.registry, List.mem_cons, List.not_mem_nil, or_false] at ha hb
  rcases ha with rfl | rfl | rfl | rfl <;> rcases hb with rfl | rfl | rfl | rfl <;>
    first | rfl | exact absurd h (by decide)

private theorem bit_maskOf_of_names {first second : List HeldModifier}
    (h : ∀ held ∈ first, ∃ other ∈ second, other.entry.1 = held.entry.1) {i : Nat}
    (hbit : (maskOf first).bit i = true) : (maskOf second).bit i = true := by
  rw [bit_maskOf] at hbit ⊢
  obtain ⟨held, hmem, hheld⟩ := List.any_eq_true.1 hbit
  obtain ⟨other, hother, hname⟩ := h held hmem
  have he := registry_entry_ext other.mem_registry held.mem_registry hname
  exact List.any_eq_true.2 ⟨other, hother, by rw [he]; exact hheld⟩

/-- Order and repetition of modifiers do not count: the mask depends on the set of names. -/
theorem WrittenForm.mods_congr {form other : WrittenForm}
    (h : ∀ name, name ∈ form.modifierNames ↔ name ∈ other.modifierNames) :
    form.mods = other.mods := by
  have hto : ∀ held ∈ form.held, ∃ twin ∈ other.held, twin.entry.1 = held.entry.1 :=
    fun held hheld => List.mem_map.1 ((h _).1 (List.mem_map.2 ⟨held, hheld, rfl⟩))
  have hfrom : ∀ held ∈ other.held, ∃ twin ∈ form.held, twin.entry.1 = held.entry.1 :=
    fun held hheld => List.mem_map.1 ((h _).2 (List.mem_map.2 ⟨held, hheld, rfl⟩))
  exact ModMask.ext_bit fun i =>
    Bool.eq_iff_iff.2 ⟨bit_maskOf_of_names hto, bit_maskOf_of_names hfrom⟩

end TilingConfig.Binding
