import TilingConfig.Proofs.Binding.ModifierSequence

/-!
# The language of descriptors

The reader accepts exactly the written forms. Both kinds of terminal are treated alike:
all that counts is which names a terminal knows, that it reads a name with a gap behind
it, and that no name it knows starts with a modifier name or a plus sign.
-/

namespace TilingConfig.Binding

open TilingConfig.Text

/-- A terminal reads exactly the names of a vocabulary, and these cannot be taken for modifiers. -/
structure ReadsNames {α : Type} (terminal : Terminal α) (names : List Char → α → Prop) :
    Prop where
  closing_eq_ok_iff : ∀ text target, closing terminal text = .ok target ↔
    ∃ name gap, text = name ++ gap ∧ IsGap gap ∧ names name target
  ne_nil : ∀ {name target}, names name target → name ≠ []
  isInk : ∀ {name target}, names name target → IsInk name
  not_modifier : ∀ {entry : String × ModMask} {rest target}, entry ∈ ModMask.registry →
    ¬ names (entry.1.toList ++ rest) target
  not_plus : ∀ {rest target}, ¬ names ('+' :: rest) target

/-- The names of keys. -/
def KeyNamed (name : List Char) (key : Keysym) : Prop :=
  name ≠ [] ∧ IsInk name ∧ Keysym.ofChars? name = some key

/-- The key terminal reads the inked text in front. -/
theorem keyTerminal_append {name behind : List Char} (hne : name ≠ []) (hink : IsInk name)
    (hb : ∀ c ∈ behind.head?, isBlank c = true) :
    keyTerminal (name ++ behind) =
      match Keysym.ofChars? name with
      | some key => .ok (key, trimStart behind)
      | none => .error (.unknownKey (String.ofList name)) := by
  have htake : (name ++ behind).takeWhile (!isBlank ·) = name :=
    takeWhile_append_of_head? (fun c hc => by simp [hink c hc]) (fun c hc => by simp [hb c hc])
  have hfull : name.isEmpty = false := by simpa using hne
  rw [keyTerminal, htake, hfull, List.drop_left]
  rfl

/-- The key terminal reads a name up to a blank, and only a gap may follow. -/
theorem readsNames_keyTerminal : ReadsNames keyTerminal KeyNamed where
  closing_eq_ok_iff text key := by
    constructor
    · intro h
      obtain ⟨name, behind, rfl, hink, hb⟩ := exists_isInk_append text
      by_cases hne : name = []
      · subst hne
        have hstop : ∀ c ∈ behind.head?, (!isBlank c) = false := fun c hc => by simp [hb c hc]
        have htake : behind.takeWhile (!isBlank ·) = [] :=
          takeWhile_append_of_head? (fun c hc => absurd hc List.not_mem_nil) hstop
        simp [closing, keyTerminal, htake] at h
      · rw [closing, keyTerminal_append hne hink hb] at h
        cases hkey : Keysym.ofChars? name with
        | none => simp [hkey] at h
        | some found =>
          cases hrest : trimStart behind with
          | nil =>
            have he : found = key := by simpa [hkey, hrest] using h
            exact ⟨name, behind, rfl, isGap_of_trimStart_eq_nil hrest, hne, hink, he ▸ hkey⟩
          | cons c rest => simp [hkey, hrest] at h
    · rintro ⟨name, gap, rfl, hgap, hne, hink, hkey⟩
      rw [closing, keyTerminal_append hne hink hgap.head?, hkey, trimStart_of_isGap hgap]
  ne_nil h := h.1
  isInk h := h.2.1
  not_modifier {_ rest _} hmem h := by
    have hnone := Keysym.ofChars?_modifier_append hmem rest
    exact absurd (hnone.symm.trans h.2.2) (by simp)
  not_plus {rest _} h := by
    have hnone := Keysym.ofChars?_plus_cons rest
    exact absurd (hnone.symm.trans h.2.2) (by simp)

/-- The names of buttons. -/
def ButtonNamed (name : List Char) (button : Button) : Prop := name = button.name.toList

/-- The button terminal reads all of the text but a gap at its end. -/
theorem readsNames_buttonTerminal : ReadsNames buttonTerminal ButtonNamed where
  closing_eq_ok_iff text button := by
    constructor
    · intro h
      obtain ⟨gap, hgap, htext⟩ := exists_trimEnd_append_gap text
      refine ⟨trimEnd text, gap, htext, hgap, ?_⟩
      cases hname : (String.ofList (trimEnd text)).isEmpty with
      | true => simp [closing, buttonTerminal, hname] at h
      | false =>
        cases hfound : Button.ofName? (String.ofList (trimEnd text)) with
        | none => simp [closing, buttonTerminal, hname, hfound] at h
        | some found =>
          have he : found = button := by
            simpa [closing, buttonTerminal, hname, hfound] using h
          have hlist := (Button.ofName?_eq_some_iff _ _).1 (he ▸ hfound)
          rw [ButtonNamed, ← hlist, String.toList_ofList]
    · rintro ⟨name, gap, rfl, hgap, rfl⟩
      have htrim := trimEnd_append_of_isGap button.isWord_name.isInk hgap
      have hfull : button.name.isEmpty = false := by cases button <;> rfl
      rw [closing, buttonTerminal, htrim, String.ofList_toList, hfull, Button.ofName?_name]
      rfl
  ne_nil {_ button} h := h ▸ button.isWord_name.1
  isInk {_ button} h := h ▸ button.isWord_name.isInk
  not_modifier {_ _ button} hmem h := button.name_ne_modifier_append hmem _ h.symm
  not_plus {_ button} h := button.isWord_name.not_mem_plus (h ▸ List.mem_cons_self ..)

variable {α : Type} {terminal : Terminal α} {names : List Char → α → Prop}

/-- A text that starts with a modifier name is no bare terminal. -/
theorem ReadsNames.closing_modifier_append (h : ReadsNames terminal names)
    {entry : String × ModMask} (hmem : entry ∈ ModMask.registry) (behind : List Char)
    (target : α) : closing terminal (entry.1.toList ++ behind) ≠ .ok target := by
  intro hread
  obtain ⟨name, gap, he, hgap, hname⟩ := (h.closing_eq_ok_iff _ _).1 hread
  rcases List.append_eq_append_iff.1 he with ⟨rest, rfl, -⟩ | ⟨rest, hentry, rfl⟩
  · exact h.not_modifier hmem hname
  · -- The name would end inside the modifier name, with a blank behind it.
    have hink := (isWord_of_mem_registry hmem).isInk
    rw [hentry] at hink
    have hrest : IsGap rest := fun c hc => hgap c (List.mem_append_left behind hc)
    have hnil := hrest.eq_nil_of_isInk hink.of_append.2
    rw [hnil, List.append_nil] at hentry
    have hbare : names (entry.1.toList ++ []) target := by rwa [List.append_nil, hentry]
    exact h.not_modifier hmem hbare

/-- A failed modifier is a failed sequence. -/
theorem modifiers_eq_error_of_modifier {text : List Char} {e : Error}
    (h : modifier text = .error e) : modifiers text = .error e := by
  rw [modifiers, h]

/-- A word that is no modifier is told by name. -/
theorem modifier_eq_unknownModifier {text : List Char} {e : Error} (hword : word text ≠ [])
    (h : modifier text = .error e) : e = .unknownModifier (String.ofList (word text)) := by
  unfold modifier at h
  split at h
  · cases h
  · have hfull : (word text).isEmpty = false := by simpa using hword
    rw [hfull] at h
    exact (Except.error.inj h).symm

/-- A plus sign ends the word in front of it. -/
theorem word_append_plus {front : List Char} (hfront : ∀ c ∈ front, isBlank c = false ∧ c ≠ '+')
    (behind : List Char) : word (front ++ '+' :: behind) = front :=
  takeWhile_append_of_head? (fun c hc => by simp [hfront c hc]) (by simp)

/-- A terminal that ends a modifier sequence has no plus sign in its name: the word before a plus
sign would have been taken for a modifier. -/
theorem ReadsNames.not_mem_plus (h : ReadsNames terminal names) {name gap : List Char} {target : α}
    (hname : names name target) (hends : EndsModifiers (name ++ gap)) : '+' ∉ name := by
  intro hplus
  obtain ⟨front, rest, rfl, hfront⟩ := List.eq_append_cons_of_mem hplus
  rw [List.append_assoc, List.cons_append] at hends
  have hclean : ∀ c ∈ front, isBlank c = false ∧ c ≠ '+' := fun c hc =>
    ⟨(h.isInk hname).of_append.1 c hc, fun he => hfront (he ▸ hc)⟩
  have hword := word_append_plus hclean (rest ++ gap)
  have hfull : front ≠ [] := by
    rintro rfl
    exact h.not_plus hname
  obtain ⟨e, hread, hplain⟩ := hends
  cases hmod : modifier (front ++ '+' :: (rest ++ gap)) with
  | error e' =>
    have he : e' = e := by
      rw [modifiers_eq_error_of_modifier hmod] at hread
      exact Except.error.inj hread
    have hunknown := modifier_eq_unknownModifier (by rwa [hword]) hmod
    have hno := hplain _ (he ▸ hunknown)
    rw [wordPrecedesPlus, hword, List.drop_left] at hno
    exact absurd hno (by simp [trimStart, isBlank])
  | ok result =>
    obtain ⟨entry, hmem, gap', -, -, he⟩ := exists_of_modifier_eq_ok hmod
    rw [List.append_assoc] at he
    rcases List.append_eq_append_iff.1 he with ⟨more, hentry, hmore⟩ | ⟨more, hfrontEq, -⟩
    · cases more with
      | nil =>
        rw [List.append_nil] at hentry
        exact h.not_modifier hmem (hentry ▸ hname)
      | cons c more =>
        have hc : '+' = c := (List.cons.inj hmore).1
        exact (isWord_of_mem_registry hmem).not_mem_plus (by simp [hentry, ← hc])
    · rw [hfrontEq, List.append_assoc] at hname
      exact h.not_modifier hmem hname

/-- The texts of a chord: a bare name between gaps, or modifiers and a word. A bare name may hold a
plus sign, a name behind modifiers may not. -/
inductive Written (names : List Char → α → Prop) : List Char → Chord α → Prop
  | bare {lead name trail : List Char} {target : α} (isGap_lead : IsGap lead)
      (isGap_trail : IsGap trail) (named : names name target) :
      Written names (lead ++ name ++ trail) ⟨.none, target⟩
  | held {target : α} (form : WrittenForm) (held_ne_nil : form.held ≠ [])
      (named : names form.name.toList target) : Written names form.chars ⟨form.mods, target⟩

/-- What is read is written so. -/
theorem ReadsNames.written_of_readWith (h : ReadsNames terminal names) {text : List Char}
    {chord : Chord α} (hread : readWith terminal text = .ok chord) : Written names text chord := by
  obtain ⟨lead, hlead, htext⟩ := exists_gap_append_trimStart text
  rw [readWith, readFrom] at hread
  cases hbare : closing terminal (trimStart text) with
  | ok target =>
    obtain ⟨name, gap, hsplit, hgap, hname⟩ := (h.closing_eq_ok_iff _ _).1 hbare
    have hchord : ⟨.none, target⟩ = chord := by simpa [hbare] using hread
    rw [htext, hsplit, ← List.append_assoc, ← hchord]
    exact .bare hlead hgap hname
  | error bare =>
    cases hmods : modifiers (trimStart text) with
    | error e =>
      cases e with
      | unknownModifier name =>
        cases hword : wordPrecedesPlus (trimStart text) <;> simp [hbare, hmods, hword] at hread
      | unknownKey name => simp [hbare, hmods] at hread
      | unknownButton name => simp [hbare, hmods] at hread
      | malformed why => simp [hbare, hmods] at hread
    | ok result =>
      obtain ⟨mask, rest⟩ := result
      obtain ⟨held, hne, hheld, rfl, -, hends⟩ := exists_of_modifiers_eq_ok hmods
      cases hlast : closing terminal rest with
      | error e => simp [hbare, hmods, hlast] at hread
      | ok target =>
        obtain ⟨name, gap, rfl, hgap, hname⟩ := (h.closing_eq_ok_iff _ _).1 hlast
        have hchord : ⟨maskOf held, target⟩ = chord := by simpa [hbare, hmods, hlast] using hread
        have hplus := h.not_mem_plus hname hends
        have hisWord : IsWord (String.ofList name).toList := by
          rw [String.toList_ofList]
          exact ⟨h.ne_nil hname, fun c hc => ⟨h.isInk hname c hc, fun he => hplus (he ▸ hc)⟩⟩
        let form : WrittenForm := ⟨lead, held, String.ofList name, gap, hlead, hisWord, hgap⟩
        have hnamed : names form.name.toList target := by rwa [String.toList_ofList]
        have hform := Written.held form hne hnamed
        rw [← hchord, htext, hheld]
        simpa only [form, WrittenForm.chars, WrittenForm.mods, String.toList_ofList,
          List.append_assoc] using hform

/-- Behind modifiers, what is read is what stands there as a terminal. -/
theorem ReadsNames.readWith_chars_of_held (h : ReadsNames terminal names) (form : WrittenForm)
    (hne : form.held ≠ []) : readWith terminal form.chars =
      (closing terminal (form.name.toList ++ form.trail)).map (Chord.mk form.mods) := by
  obtain ⟨first, others, hheld⟩ := List.exists_cons_of_ne_nil hne
  obtain ⟨behind, hbehind⟩ : ∃ behind,
      form.held.flatMap HeldModifier.chars ++ (form.name.toList ++ form.trail) =
        first.entry.1.toList ++ behind := by
    rw [hheld, List.flatMap_cons, HeldModifier.chars]
    simp only [List.append_assoc]
    exact ⟨_, rfl⟩
  have hfirst := isWord_of_mem_registry first.mem_registry
  have hstart := hfirst.isInk.isFlush_append hfirst.1 behind
  have htrim : trimStart form.chars =
      form.held.flatMap HeldModifier.chars ++ (form.name.toList ++ form.trail) := by
    rw [← hbehind] at hstart
    rw [WrittenForm.chars, List.append_assoc, List.append_assoc,
      trimStart_gap_append form.isGap_lead hstart]
  have hflush := form.isWord_name.isInk.isFlush_append form.isWord_name.1 form.trail
  have hmods := modifiers_flatMap_chars hne hflush
    (endsModifiers_of_not_mem_plus form.not_mem_plus_name_trail)
  rw [readWith, htrim, readFrom, hmods]
  cases hbare : closing terminal
      (form.held.flatMap HeldModifier.chars ++ (form.name.toList ++ form.trail)) with
  | ok other =>
    rw [hbehind] at hbare
    exact absurd hbare (h.closing_modifier_append first.mem_registry behind other)
  | error e =>
    cases hlast : closing terminal (form.name.toList ++ form.trail) <;> simp only [hlast] <;> rfl

/-- A word with a gap behind it is accepted as a terminal when its name is known. -/
theorem ReadsNames.closing_append_gap (h : ReadsNames terminal names) {name gap : List Char}
    (hink : IsInk name) (hgap : IsGap gap) (target : α) :
    closing terminal (name ++ gap) = .ok target ↔ names name target := by
  rw [h.closing_eq_ok_iff]
  constructor
  · rintro ⟨other, behind, he, hbehind, hname⟩
    rwa [isInk_append_gap_inj hink (h.isInk hname) hgap hbehind he]
  · exact fun hname => ⟨name, gap, rfl, hgap, hname⟩

private theorem ok_chord_iff {mods : ModMask} {target : α} {chord : Chord α} :
    (Except.ok ⟨mods, target⟩ : Except Error (Chord α)) = .ok chord ↔
      (Except.ok target : Except Error α) = .ok chord.target ∧ chord.mods = mods := by
  obtain ⟨others, other⟩ := chord
  simp only [Except.ok.injEq, Chord.mk.injEq]
  exact ⟨fun he => ⟨he.2, he.1.symm⟩, fun he => ⟨he.2.symm, he.1⟩⟩

/-- A written form is accepted exactly when its name is known, with the modifiers written in it. -/
theorem ReadsNames.readWith_chars_eq_ok_iff (h : ReadsNames terminal names) (form : WrittenForm)
    (chord : Chord α) : readWith terminal form.chars = .ok chord ↔
      names form.name.toList chord.target ∧ chord.mods = form.mods := by
  rw [← h.closing_append_gap form.isWord_name.isInk form.isGap_trail]
  by_cases hne : form.held = []
  · have hmods : form.mods = .none := by rw [WrittenForm.mods, hne, maskOf]
    have hchars : form.chars = form.lead ++ (form.name.toList ++ form.trail) := by
      rw [WrittenForm.chars, hne, List.flatMap_nil, List.append_nil, List.append_assoc]
    have hflush := form.isWord_name.isInk.isFlush_append form.isWord_name.1 form.trail
    obtain ⟨e, hread, hplain⟩ := endsModifiers_of_not_mem_plus form.not_mem_plus_name_trail
    rw [hmods, readWith, hchars, trimStart_gap_append form.isGap_lead hflush, readFrom, hread]
    cases hlast : closing terminal (form.name.toList ++ form.trail) with
    | ok target => exact ok_chord_iff
    | error bare =>
      cases e with
      | unknownModifier name => simp [hplain name rfl]
      | unknownKey name => simp
      | unknownButton name => simp
      | malformed why => simp
  · rw [h.readWith_chars_of_held form hne]
    cases hlast : closing terminal (form.name.toList ++ form.trail) with
    | ok target => exact ok_chord_iff
    | error e => simp [Except.map]

/-- What is written is read so. -/
theorem ReadsNames.readWith_of_written (h : ReadsNames terminal names) {text : List Char}
    {chord : Chord α} (hw : Written names text chord) : readWith terminal text = .ok chord := by
  cases hw with
  | @bare lead name trail target hlead htrail hname =>
    have hflush := (h.isInk hname).isFlush_append (h.ne_nil hname) trail
    have hread := (h.closing_append_gap (h.isInk hname) htrail target).2 hname
    rw [readWith, List.append_assoc, trimStart_gap_append hlead hflush, readFrom, hread]
  | @held target form hne hname => exact (h.readWith_chars_eq_ok_iff form _).2 ⟨hname, rfl⟩

/-- The reader accepts exactly the written forms. -/
theorem ReadsNames.readWith_eq_ok_iff (h : ReadsNames terminal names) (text : List Char)
    (chord : Chord α) : readWith terminal text = .ok chord ↔ Written names text chord :=
  ⟨h.written_of_readWith, h.readWith_of_written⟩

/-- Gaps, and the order and repetition of modifiers, do not change what is read. -/
theorem ReadsNames.toOption_readWith_congr (h : ReadsNames terminal names)
    {form other : WrittenForm} (hname : form.name = other.name)
    (hmods : ∀ name, name ∈ form.modifierNames ↔ name ∈ other.modifierNames) :
    (readWith terminal form.chars).toOption = (readWith terminal other.chars).toOption := by
  have hsome (result : Except Error (Chord α)) (chord : Chord α) :
      result.toOption = some chord ↔ result = .ok chord := by
    cases result <;> simp [Except.toOption]
  apply Option.ext
  intro chord
  rw [hsome, hsome, h.readWith_chars_eq_ok_iff, h.readWith_chars_eq_ok_iff, hname,
    WrittenForm.mods_congr hmods]

/-- Exactly the key descriptors are read as key bindings. -/
theorem readKey_eq_ok_iff (text : String) (mods : ModMask) (key : Keysym) :
    readKey text = .ok ⟨mods, key⟩ ↔ KeyDescriptor text mods key := by
  rw [readKey, readsNames_keyTerminal.readWith_eq_ok_iff]
  constructor
  · intro hw
    generalize hlist : text.toList = chars at hw
    obtain rfl : text = String.ofList chars := by rw [← hlist, String.ofList_toList]
    cases hw with
    | @bare lead name trail _ hlead htrail hname =>
      refine Or.inl ⟨lead, String.ofList name, trail, ?_, hlead, htrail, ?_, ?_, ?_, rfl⟩
      · rw [String.toList_ofList]
      · exact fun he => hname.1 (by simpa using congrArg String.toList he)
      · simpa only [String.toList_ofList] using hname.2.1
      · simpa only [Keysym.ofName?, String.toList_ofList] using hname.2.2
    | held form hne hname => exact Or.inr ⟨form, rfl, hne, hname.2.2, rfl⟩
  · rintro (⟨lead, name, trail, rfl, hlead, htrail, hne, hink, hkey, rfl⟩ |
      ⟨form, rfl, hne, hkey, rfl⟩)
    · rw [String.toList_ofList]
      have hfull : name.toList ≠ [] := fun he => hne (String.toList_eq_nil_iff.1 he)
      exact .bare hlead htrail ⟨hfull, hink, hkey⟩
    · rw [WrittenForm.text, String.toList_ofList]
      exact .held form hne ⟨form.isWord_name.1, form.isWord_name.isInk, hkey⟩

/-- Exactly the button descriptors are read as button bindings. -/
theorem readButton_eq_ok_iff (text : String) (mods : ModMask) (button : Button) :
    readButton text = .ok ⟨mods, button⟩ ↔ ButtonDescriptor text mods button := by
  have hnamed (form : WrittenForm) :
      ButtonNamed form.name.toList button ↔ Button.ofName? form.name = some button := by
    rw [Button.ofName?_eq_some_iff, ButtonNamed, String.toList_inj]
  constructor
  · intro hread
    have hw := readsNames_buttonTerminal.written_of_readWith hread
    generalize hlist : text.toList = chars at hw
    obtain rfl : text = String.ofList chars := by rw [← hlist, String.ofList_toList]
    cases hw with
    | @bare lead name trail _ hlead htrail hname =>
      obtain rfl : name = button.name.toList := hname
      let form : WrittenForm :=
        ⟨lead, [], button.name, trail, hlead, button.isWord_name, htrail⟩
      refine ⟨form, ?_, Button.ofName?_name button, rfl⟩
      simp [form, WrittenForm.text, WrittenForm.chars]
    | held form hne hname => exact ⟨form, rfl, (hnamed form).1 hname, rfl⟩
  · rintro ⟨form, rfl, hbutton, rfl⟩
    rw [readButton, WrittenForm.text, String.toList_ofList,
      readsNames_buttonTerminal.readWith_chars_eq_ok_iff]
    exact ⟨(hnamed form).2 hbutton, rfl⟩

/-- The language of descriptors: nothing outside the written forms is accepted, and neither gaps
nor the order or repetition of modifiers count. -/
theorem descriptor_language :
    (∀ text mods key, readKey text = .ok ⟨mods, key⟩ ↔ KeyDescriptor text mods key) ∧
    (∀ text mods button, readButton text = .ok ⟨mods, button⟩ ↔
      ButtonDescriptor text mods button) ∧
    (∀ form other : WrittenForm, form.name = other.name →
      (∀ name, name ∈ form.modifierNames ↔ name ∈ other.modifierNames) →
      (readKey form.text).toOption = (readKey other.text).toOption ∧
        (readButton form.text).toOption = (readButton other.text).toOption) := by
  refine ⟨readKey_eq_ok_iff, readButton_eq_ok_iff, ?_⟩
  intro form other hname hmods
  simp only [readKey, readButton, WrittenForm.text, String.toList_ofList]
  exact ⟨readsNames_keyTerminal.toOption_readWith_congr hname hmods,
    readsNames_buttonTerminal.toOption_readWith_congr hname hmods⟩

end TilingConfig.Binding
