import TilingConfig.Proofs.Binding.CanonicalName
import TilingConfig.Proofs.Binding.Language

/-!
# Bindings that are printed and read back

A printed binding is a written form: its modifiers in registry order, each with a plus
sign between spaces, and the printed name of its target. So the reader gives the binding
back, and no two bindings that can be read print alike.
-/

namespace TilingConfig.Binding

open TilingConfig.Text

/-! ## The printed form -/

/-- A modifier as it is printed, with one space on either side of the plus sign. -/
def HeldModifier.spaced (entry : String × ModMask) (h : entry ∈ ModMask.registry) :
    HeldModifier where
  entry := entry
  before := [' ']
  after := [' ']
  mem_registry := h
  isGap_before := isGap_space
  isGap_after := isGap_space

namespace ModMask

/-- The modifiers of a mask as they are printed. -/
def printed (mask : ModMask) : List HeldModifier :=
  (registry.attach.filter fun entry => mask.contains entry.1.2).map fun entry =>
    .spaced entry.1 entry.2

theorem maskOf_printed {mask : ModMask} (h : mask.HasProtocolBits) :
    maskOf mask.printed = mask := by
  obtain ⟨shift, ctrl, alt, super, rfl⟩ := h.exists_ofHeld
  cases shift <;> cases ctrl <;> cases alt <;> cases super <;> rfl

/-- The printed mask and a plus sign behind it are what the printed modifiers are made of. -/
theorem flatMap_printed {mask : ModMask} (h : mask.HasProtocolBits) (hne : mask.isEmpty = false) :
    mask.printed.flatMap HeldModifier.chars = (mask.render ++ " + ").toList := by
  obtain ⟨shift, ctrl, alt, super, rfl⟩ := h.exists_ofHeld
  cases shift <;> cases ctrl <;> cases alt <;> cases super <;>
    first | exact absurd hne (by decide) | decide

theorem printed_of_isEmpty {mask : ModMask} (h : mask.isEmpty = true) : mask.printed = [] := by
  obtain ⟨bits⟩ := mask
  rw [isEmpty, decide_eq_true_eq] at h
  subst h
  rfl

end ModMask

section

variable {α β : Type} {target : β → String} {binding : Chord β}

/-- A printed binding as a written form. -/
def Chord.printedForm (binding : Chord β) (hword : IsWord (target binding.target).toList) :
    WrittenForm where
  lead := []
  held := binding.mods.printed
  name := target binding.target
  trail := []
  isGap_lead := isGap_nil
  isWord_name := hword
  isGap_trail := isGap_nil

theorem Chord.chars_printedForm (hmods : binding.mods.HasProtocolBits)
    (hword : IsWord (target binding.target).toList) :
    (binding.printedForm hword).chars = (binding.renderWith target).toList := by
  rw [WrittenForm.chars, printedForm, List.nil_append, List.append_nil, renderWith]
  cases h : binding.mods.isEmpty with
  | true =>
    rw [ModMask.printed_of_isEmpty h]
    rfl
  | false =>
    rw [ModMask.flatMap_printed hmods h, ← String.toList_append]
    rfl

/-- A printed binding is read if its target's name is, with its own modifiers. -/
theorem ReadsNames.readWith_renderWith_eq_ok_iff {terminal : Terminal α}
    {names : List Char → α → Prop} (h : ReadsNames terminal names)
    (hmods : binding.mods.HasProtocolBits) (hword : IsWord (target binding.target).toList)
    (chord : Chord α) :
    readWith terminal (binding.renderWith target).toList = .ok chord ↔
      names (target binding.target).toList chord.target ∧ chord.mods = binding.mods := by
  rw [← Chord.chars_printedForm hmods hword, h.readWith_chars_eq_ok_iff, WrittenForm.mods,
    Chord.printedForm, ModMask.maskOf_printed hmods]

end

/-! ## Reading printed bindings -/

/-- A printed key binding is read back if its modifiers are some of the four and its key number is
not zero. -/
theorem readKey_renderKey {binding : KeyBinding} (hmods : binding.mods.HasProtocolBits)
    (hcode : binding.target.code ≠ 0) : readKey (renderKey binding) = .ok binding := by
  have hform := binding.target.canonical_render
  rw [readKey, renderKey, readsNames_keyTerminal.readWith_renderWith_eq_ok_iff hmods hform.isWord]
  exact ⟨⟨hform.isWord.1, hform.isWord.isInk, hform.ofChars? hcode⟩, rfl⟩

/-- A printed button binding is read back if its modifiers are some of the four. -/
theorem readButton_renderButton {binding : ButtonBinding} (hmods : binding.mods.HasProtocolBits) :
    readButton (renderButton binding) = .ok binding := by
  rw [readButton, renderButton,
    readsNames_buttonTerminal.readWith_renderWith_eq_ok_iff hmods binding.target.isWord_name]
  exact ⟨rfl, rfl⟩

/-- What is written holds no other modifiers than the four. -/
theorem Written.hasProtocolBits {α : Type} {names : List Char → α → Prop} {text : List Char}
    {chord : Chord α} (h : Written names text chord) : chord.mods.HasProtocolBits := by
  cases h with
  | bare => exact ModMask.hasProtocolBits_none
  | held form => exact hasProtocolBits_maskOf form.held

/-- A key is read with no other modifiers than the four. -/
theorem hasProtocolBits_of_readKey {text : String} {binding : KeyBinding}
    (h : readKey text = .ok binding) : binding.mods.HasProtocolBits :=
  (readsNames_keyTerminal.written_of_readWith h).hasProtocolBits

/-- So is a button. -/
theorem hasProtocolBits_of_readButton {text : String} {binding : ButtonBinding}
    (h : readButton text = .ok binding) : binding.mods.HasProtocolBits :=
  (readsNames_buttonTerminal.written_of_readWith h).hasProtocolBits

/-- No key is read with the number zero. -/
theorem code_ne_zero_of_readKey {text : String} {binding : KeyBinding}
    (h : readKey text = .ok binding) : binding.target.code ≠ 0 := by
  have hwritten : Written KeyNamed text.toList binding :=
    readsNames_keyTerminal.written_of_readWith h
  generalize text.toList = chars at hwritten
  cases hwritten with
  | bare _ _ hname => exact Keysym.code_ne_zero_of_ofChars? hname.2.2
  | held _ _ hname => exact Keysym.code_ne_zero_of_ofChars? hname.2.2

/-- What is printed for a button is no key descriptor. -/
theorem readKey_renderButton_ne_ok {binding : ButtonBinding} (hmods : binding.mods.HasProtocolBits)
    (key : KeyBinding) : readKey (renderButton binding) ≠ .ok key := by
  have hunknown : ∀ button ∈ Button.registry, Keysym.ofChars? button.name.toList = none := by
    decide +kernel
  have hmem : binding.target ∈ Button.registry := by cases binding.target <;> decide
  rw [readKey, renderButton]
  intro h
  rw [readsNames_keyTerminal.readWith_renderWith_eq_ok_iff hmods binding.target.isWord_name] at h
  obtain ⟨⟨-, -, hkey⟩, -⟩ := h
  rw [hunknown _ hmem] at hkey
  cases hkey

/-- Printing and reading are inverse: a binding is read back from its printed form exactly if its
modifiers are some of the four and its key number is not zero, which no name stands for. What is
read is always so. So reading, printing and reading again gives what the first reading gave, and
different bindings that were read never print alike. -/
theorem printed_binding_read_back :
    (∀ binding : KeyBinding, readKey (renderKey binding) = .ok binding ↔
      binding.mods.HasProtocolBits ∧ binding.target.code ≠ 0) ∧
    (∀ binding : ButtonBinding,
      readButton (renderButton binding) = .ok binding ↔ binding.mods.HasProtocolBits) ∧
    (∀ name key, Keysym.ofName? name = some key → key.code ≠ 0) ∧
    (∀ text binding, readKey text = .ok binding →
      binding.mods.HasProtocolBits ∧ binding.target.code ≠ 0 ∧
        readKey (renderKey binding) = readKey text) ∧
    (∀ text binding, readButton text = .ok binding →
      binding.mods.HasProtocolBits ∧ readButton (renderButton binding) = readButton text) ∧
    (∀ text other first second, readKey text = .ok first → readKey other = .ok second →
      (renderKey first = renderKey second ↔ first = second)) ∧
    (∀ first second : ButtonBinding, first.mods.HasProtocolBits → second.mods.HasProtocolBits →
      (renderButton first = renderButton second ↔ first = second)) ∧
    (∀ text key (button : ButtonBinding), readKey text = .ok key → button.mods.HasProtocolBits →
      renderKey key ≠ renderButton button) := by
  refine ⟨fun binding => ⟨fun h => ⟨hasProtocolBits_of_readKey h, code_ne_zero_of_readKey h⟩,
      fun h => readKey_renderKey h.1 h.2⟩,
    fun binding => ⟨hasProtocolBits_of_readButton, readButton_renderButton⟩,
    fun name key h => Keysym.code_ne_zero_of_ofChars? h, ?_, ?_, ?_, ?_, ?_⟩
  · intro text binding h
    have hmods := hasProtocolBits_of_readKey h
    have hcode := code_ne_zero_of_readKey h
    exact ⟨hmods, hcode, (readKey_renderKey hmods hcode).trans h.symm⟩
  · intro text binding h
    have hmods := hasProtocolBits_of_readButton h
    exact ⟨hmods, (readButton_renderButton hmods).trans h.symm⟩
  · intro text other first second hfirst hsecond
    refine ⟨fun h => ?_, congrArg renderKey⟩
    have hread :=
      readKey_renderKey (hasProtocolBits_of_readKey hfirst) (code_ne_zero_of_readKey hfirst)
    rw [h, readKey_renderKey (hasProtocolBits_of_readKey hsecond)
      (code_ne_zero_of_readKey hsecond)] at hread
    exact (Except.ok.inj hread).symm
  · intro first second hfirst hsecond
    refine ⟨fun h => ?_, congrArg renderButton⟩
    have hread := readButton_renderButton hfirst
    rw [h, readButton_renderButton hsecond] at hread
    exact (Except.ok.inj hread).symm
  · intro text key button h hmods he
    have hread :=
      readKey_renderKey (hasProtocolBits_of_readKey h) (code_ne_zero_of_readKey h)
    rw [he] at hread
    exact readKey_renderButton_ne_ok hmods key hread

/-- A key is printed by the first of its names, with its modifiers in their order, and read back. -/
theorem printed_binding_read_back_alias :
    ∃ binding : KeyBinding, readKey "shift+super + quoteright" = .ok binding ∧
      renderKey binding = "super + shift + apostrophe" ∧
      readKey (renderKey binding) = .ok binding := by
  have hprinted : (readKey "shift+super + quoteright").toOption.map renderKey =
      some "super + shift + apostrophe" := by decide +kernel
  obtain ⟨-, -, -, hback, -⟩ := printed_binding_read_back
  cases hread : readKey "shift+super + quoteright" with
  | error e =>
    rw [hread] at hprinted
    cases hprinted
  | ok binding =>
    rw [hread] at hprinted
    obtain ⟨-, -, hagain⟩ := hback _ _ hread
    exact ⟨binding, rfl, Option.some.inj hprinted, hagain.trans hread⟩

end TilingConfig.Binding
