import TilingConfig.Proofs.Binding.KeyName
import TilingConfig.Proofs.Binding.Language

/-!
# The diagnosis of a refused descriptor

Words that are joined by plus signs are refused in one of five ways, and which one it is can
be told from the words alone: whether those before the last are modifier names, and if not,
whether the first that is none begins with one. The reader goes down the words one level for
each modifier. It hands back what the innermost level says of a word that no modifier name
begins, and takes any other failure for the end of the modifiers.
-/

namespace TilingConfig.Binding

open TilingConfig.Text

/-! ## Words joined by plus signs -/

/-- A word with a plus sign behind it, as they are written. -/
structure JoinedWord where
  /-- The word. -/
  word : String
  /-- The gap before the plus sign. -/
  before : List Char
  /-- The gap behind the plus sign. -/
  after : List Char
  isWord_word : IsWord word.toList
  isGap_before : IsGap before
  isGap_after : IsGap after

/-- The characters of a word with its plus sign. -/
def JoinedWord.chars (joined : JoinedWord) : List Char :=
  joined.word.toList ++ joined.before ++ '+' :: joined.after

/-- Words that are joined by plus signs, as they are written. -/
structure WordSequence where
  /-- The gap in front. -/
  lead : List Char
  /-- The words with a plus sign behind them. -/
  joined : List JoinedWord
  /-- The last word. -/
  last : String
  /-- The gap at the end. -/
  trail : List Char
  isGap_lead : IsGap lead
  isWord_last : IsWord last.toList
  isGap_trail : IsGap trail

namespace WordSequence

/-- The text from some of the joined words on to the end. -/
def charsFrom (words : WordSequence) (rest : List JoinedWord) : List Char :=
  rest.flatMap JoinedWord.chars ++ (words.last.toList ++ words.trail)

/-- The characters of the words. -/
def chars (words : WordSequence) : List Char := words.lead ++ words.charsFrom words.joined

/-- The text of the words. -/
def text (words : WordSequence) : String := String.ofList words.chars

/-- The text of the words less the blanks around it. -/
def trimmed (words : WordSequence) : String := String.ofList (trim words.chars)

end WordSequence

/-- A word is the name of a modifier. -/
def IsModifierName (word : String) : Prop := ∃ entry ∈ ModMask.registry, entry.1 = word

/-- A modifier name is the beginning of a word. -/
def BeginsWithModifier (word : String) : Prop :=
  ∃ entry ∈ ModMask.registry, entry.1.toList <+: word.toList

/-- What words are refused for by the reader of a terminal: `known` are the names of the terminal,
`unknown` is its error for any other name, and `reach` is what it takes for a name at the front of a
text. -/
inductive Diagnosis (known : String → Prop) (unknown : String → Error)
    (reach : List Char → List Char) (words : WordSequence) : Error → Prop
  /-- Modifiers, and then a name that is not known. -/
  | unknownName (held : ∀ joined ∈ words.joined, IsModifierName joined.word)
      (unresolved : ¬ known words.last)
      (meant : words.joined = [] → ¬ BeginsWithModifier words.last) :
      Diagnosis known unknown reach words (unknown words.last)
  /-- A single word that begins with a modifier name. -/
  | loneModifier {entry : String × ModMask} (single : words.joined = [])
      (mem_registry : entry ∈ ModMask.registry) (begins : entry.1.toList <+: words.last.toList) :
      Diagnosis known unknown reach words (.malformed (.missingPlus entry.2))
  /-- Modifiers, and then a word in modifier position that begins with no modifier name. -/
  | unknownModifier {front behind : List JoinedWord} {stray : JoinedWord}
      (split : words.joined = front ++ stray :: behind)
      (held : ∀ joined ∈ front, IsModifierName joined.word)
      (plain : ¬ BeginsWithModifier stray.word) :
      Diagnosis known unknown reach words (.unknownModifier stray.word)
  /-- The first of several words is no modifier name but begins with one. -/
  | missingPlus {behind : List JoinedWord} {stray : JoinedWord} {entry : String × ModMask}
      (split : words.joined = stray :: behind) (other : ¬ IsModifierName stray.word)
      (mem_registry : entry ∈ ModMask.registry) (begins : entry.1.toList <+: stray.word.toList) :
      Diagnosis known unknown reach words (.malformed (.missingPlus entry.2))
  /-- Modifiers, and then a word in modifier position that is no modifier name but begins with
  one: all that follows is taken for the terminal. -/
  | unknownRest {front behind : List JoinedWord} {stray : JoinedWord}
      (split : words.joined = front ++ stray :: behind) (nonempty : front ≠ [])
      (held : ∀ joined ∈ front, IsModifierName joined.word)
      (other : ¬ IsModifierName stray.word) (begins : BeginsWithModifier stray.word) :
      Diagnosis known unknown reach words
        (unknown (String.ofList (reach (words.charsFrom (stray :: behind)))))

/-- What words are refused for as a key descriptor. A key name reaches up to the next blank. -/
def KeyDiagnosis : WordSequence → Error → Prop :=
  Diagnosis (fun name => Keysym.ofName? name ≠ none) .unknownKey (·.takeWhile (!isBlank ·))

/-- What words are refused for as a button descriptor. A button name reaches up to the end. -/
def ButtonDiagnosis : WordSequence → Error → Prop :=
  Diagnosis (fun name => Button.ofName? name ≠ none) .unknownButton trimEnd

/-! ## Reading one word -/

/-- A text whose first word, and whatever stands behind it, ends there. -/
theorem word_append {name behind : List Char} (hname : IsWord name)
    (hstop : ∀ c ∈ behind.head?, isBlank c = true ∨ c = '+') : word (name ++ behind) = name := by
  apply takeWhile_append_of_head?
  · intro c hc
    simp [hname.2 c hc]
  · intro c hc
    rcases hstop c hc with h | h <;> simp [h]

/-- A word is followed by the plus sign that stands behind a gap. -/
theorem wordPrecedesPlus_append {name gap : List Char} (hname : IsWord name) (hgap : IsGap gap)
    (rest : List Char) : wordPrecedesPlus (name ++ gap ++ '+' :: rest) = true := by
  have hstop : ∀ c ∈ (gap ++ '+' :: rest).head?, isBlank c = true ∨ c = '+' := by
    cases gap with
    | nil => simp
    | cons c gap => simpa using Or.inl (hgap c List.mem_cons_self)
  have hflush : IsFlush ('+' :: rest) := by simp [IsFlush, isBlank]
  rw [List.append_assoc, wordPrecedesPlus, word_append hname hstop, List.drop_left,
    trimStart_gap_append hgap hflush]
  rfl

/-- A modifier name that is the beginning of a text is the beginning of its first word. -/
theorem prefix_of_prefix_append {entry : String × ModMask} (hentry : entry ∈ ModMask.registry)
    {name behind : List Char} (hstop : ∀ c ∈ behind.head?, isBlank c = true ∨ c = '+')
    (h : entry.1.toList <+: name ++ behind) : entry.1.toList <+: name := by
  rcases List.prefix_or_prefix_of_prefix h (List.prefix_append name behind) with hshort | hlong
  · exact hshort
  · obtain ⟨more, hmore⟩ := hlong
    rw [← hmore, List.prefix_append_right_inj] at h
    cases more with
    | nil => simp [← hmore]
    | cons c more =>
      -- The name would go on with what ends the word.
      have hhead : c ∈ behind.head? := by
        obtain ⟨rest, rfl⟩ := h
        rfl
      have hc := (isWord_of_mem_registry hentry).2 c (by simp [← hmore])
      rcases hstop c hhead with hblank | hplus
      · rw [hc.1] at hblank
        cases hblank
      · exact absurd hplus hc.2

/-- A word that begins with no modifier name is told by name. -/
theorem modifier_append_of_plain {name : String} {behind : List Char} (hname : IsWord name.toList)
    (hstop : ∀ c ∈ behind.head?, isBlank c = true ∨ c = '+') (hplain : ¬ BeginsWithModifier name) :
    modifier (name.toList ++ behind) = .error (.unknownModifier name) := by
  have hfind : ModMask.registry.find?
      (fun entry => entry.1.toList.isPrefixOf (name.toList ++ behind)) = none := by
    rw [List.find?_eq_none]
    intro entry hentry hprefix
    have hbegins := prefix_of_prefix_append hentry hstop (List.isPrefixOf_iff_prefix.1 hprefix)
    exact hplain ⟨entry, hentry, hbegins⟩
  have hfull : name.toList.isEmpty = false := by simpa using hname.1
  rw [modifier, hfind, word_append hname hstop]
  simp only [hfull, Bool.false_eq_true, if_false, String.ofList_toList]

/-- A modifier name without a plus sign behind it is malformed. -/
theorem modifiers_append_of_no_plus {entry : String × ModMask} (hentry : entry ∈ ModMask.registry)
    {behind : List Char} (h : (trimStart behind).head? ≠ some '+') :
    modifiers (entry.1.toList ++ behind) = .error (.malformed (.missingPlus entry.2)) := by
  have hmodifier : modifier (entry.1.toList ++ behind) = .ok (entry.2, trimStart behind) := by
    rw [modifier, find?_registry_append hentry]
    simp only [List.drop_left]
  rw [modifiers, hmodifier]
  generalize trimStart behind = rest at h
  cases rest with
  | nil => rfl
  | cons c rest =>
    have hc : c ≠ '+' := fun he => h (by rw [he]; rfl)
    split
    · contradiction
    · next heq =>
      exact absurd (List.cons.inj (Prod.mk.inj (Except.ok.inj heq)).2).1 hc
    · next heq =>
      rw [(Prod.mk.inj (Except.ok.inj heq)).1]

namespace JoinedWord

variable (joined : JoinedWord) (rest : List Char)

theorem chars_append : joined.chars ++ rest =
    joined.word.toList ++ (joined.before ++ '+' :: (joined.after ++ rest)) := by
  simp only [chars, List.append_assoc, List.cons_append]

theorem isFlush_chars_append : IsFlush (joined.chars ++ rest) := by
  rw [chars_append]
  exact joined.isWord_word.isInk.isFlush_append joined.isWord_word.1 _

theorem wordPrecedesPlus_chars_append : wordPrecedesPlus (joined.chars ++ rest) = true := by
  rw [chars_append, ← List.append_assoc]
  exact wordPrecedesPlus_append joined.isWord_word joined.isGap_before _

/-- A word in modifier position that begins with no modifier name is unknown. -/
theorem modifiers_of_plain (h : ¬ BeginsWithModifier joined.word) :
    modifiers (joined.chars ++ rest) = .error (.unknownModifier joined.word) := by
  apply modifiers_eq_error_of_modifier
  rw [chars_append]
  apply modifier_append_of_plain joined.isWord_word _ h
  cases hgap : joined.before with
  | nil => simp
  | cons c gap =>
    have hc := joined.isGap_before c (by simp [hgap])
    simpa using Or.inl hc

variable {joined}

/-- A word in modifier position that is no modifier name but begins with one is cut in two. -/
theorem modifiers_of_begins {entry : String × ModMask} (hentry : entry ∈ ModMask.registry)
    (hother : ¬ IsModifierName joined.word) (h : entry.1.toList <+: joined.word.toList) :
    modifiers (joined.chars ++ rest) = .error (.malformed (.missingPlus entry.2)) := by
  obtain ⟨more, hmore⟩ := h
  have hne : more ≠ [] := by
    rintro rfl
    rw [List.append_nil] at hmore
    exact hother ⟨entry, hentry, String.toList_inj.1 hmore⟩
  obtain ⟨c, more, rfl⟩ := List.exists_cons_of_ne_nil hne
  have hc := joined.isWord_word.2 c (by simp [← hmore])
  rw [chars_append, ← hmore, List.append_assoc]
  apply modifiers_append_of_no_plus hentry
  rw [List.cons_append, trimStart_of_isFlush (by simp [IsFlush, hc.1])]
  simpa using hc.2

/-- A modifier name with its plus sign is a written modifier. -/
theorem exists_heldModifier (h : IsModifierName joined.word) :
    ∃ held : HeldModifier, held.chars = joined.chars := by
  obtain ⟨entry, hentry, hname⟩ := h
  refine ⟨⟨entry, joined.before, joined.after, hentry, joined.isGap_before, joined.isGap_after⟩, ?_⟩
  rw [HeldModifier.chars, chars, hname]

end JoinedWord

/-- Modifier names with their plus signs are a written sequence of modifiers. -/
theorem exists_heldModifiers {front : List JoinedWord}
    (h : ∀ joined ∈ front, IsModifierName joined.word) :
    ∃ held : List HeldModifier, (front ≠ [] → held ≠ []) ∧
      held.flatMap HeldModifier.chars = front.flatMap JoinedWord.chars := by
  induction front with
  | nil => exact ⟨[], fun hne => absurd rfl hne, rfl⟩
  | cons first rest ih =>
    obtain ⟨hfirst, hrest⟩ := List.forall_mem_cons.1 h
    obtain ⟨one, hone⟩ := JoinedWord.exists_heldModifier hfirst
    obtain ⟨held, -, hheld⟩ := ih hrest
    exact ⟨one :: held, fun _ => List.cons_ne_nil _ _, by
      rw [List.flatMap_cons, List.flatMap_cons, hone, hheld]⟩

/-! ## Reading behind modifiers -/

/-- A word that is unknown behind modifiers is handed back through all of them: each of the words
before it is followed by a plus sign, as it is itself. -/
theorem modifiers_flatMap_chars_of_unknown (held : List HeldModifier) {rest : List Char}
    {name : String} (hflush : IsFlush rest)
    (h : modifiers rest = .error (.unknownModifier name)) (hplus : wordPrecedesPlus rest = true) :
    modifiers (held.flatMap HeldModifier.chars ++ rest) = .error (.unknownModifier name) ∧
      wordPrecedesPlus (held.flatMap HeldModifier.chars ++ rest) = true ∧
        IsFlush (held.flatMap HeldModifier.chars ++ rest) := by
  induction held with
  | nil => exact ⟨h, hplus, hflush⟩
  | cons first others ih =>
    obtain ⟨hread, hword, hstart⟩ := ih
    have hfirst := isWord_of_mem_registry first.mem_registry
    rw [List.flatMap_cons, List.append_assoc]
    refine ⟨?_, ?_, ?_⟩
    · rw [modifiers_chars_append first hstart, hread]
      simp only [hword, if_true]
    · rw [HeldModifier.chars, List.append_assoc, List.cons_append]
      exact wordPrecedesPlus_append hfirst first.isGap_before _
    · rw [HeldModifier.chars, List.append_assoc, List.append_assoc]
      exact hfirst.isInk.isFlush_append hfirst.1 _

namespace WordSequence

variable (words : WordSequence)

theorem charsFrom_append (front rest : List JoinedWord) :
    words.charsFrom (front ++ rest) =
      front.flatMap JoinedWord.chars ++ words.charsFrom rest := by
  rw [charsFrom, List.flatMap_append, List.append_assoc, ← charsFrom]

theorem charsFrom_cons (stray : JoinedWord) (behind : List JoinedWord) :
    words.charsFrom (stray :: behind) = stray.chars ++ words.charsFrom behind :=
  words.charsFrom_append [stray] behind |>.trans (by simp)

theorem charsFrom_nil : words.charsFrom [] = words.last.toList ++ words.trail := rfl

theorem isFlush_charsFrom (rest : List JoinedWord) : IsFlush (words.charsFrom rest) := by
  cases rest with
  | nil => exact words.isWord_last.isInk.isFlush_append words.isWord_last.1 _
  | cons stray behind =>
    rw [charsFrom_cons]
    exact stray.isFlush_chars_append _

theorem trimStart_chars : trimStart words.chars = words.charsFrom words.joined :=
  trimStart_gap_append words.isGap_lead (words.isFlush_charsFrom _)

/-- No plus sign stands in the last word or behind it. -/
theorem not_mem_plus_last_trail : '+' ∉ words.last.toList ++ words.trail := by
  rw [List.mem_append]
  rintro (hc | hc)
  · exact words.isWord_last.not_mem_plus hc
  · exact absurd (words.isGap_trail '+' hc) (by decide)

/-- Words of which all but the last are modifiers are the written form of a descriptor. -/
theorem exists_writtenForm (h : ∀ joined ∈ words.joined, IsModifierName joined.word) :
    ∃ form : WrittenForm, form.name = words.last ∧ form.chars = words.chars := by
  obtain ⟨held, -, hheld⟩ := exists_heldModifiers h
  refine ⟨⟨words.lead, held, words.last, words.trail, words.isGap_lead, words.isWord_last,
    words.isGap_trail⟩, rfl, ?_⟩
  simp only [WrittenForm.chars, chars, charsFrom, hheld, List.append_assoc]

end WordSequence

/-! ## Terminals that refuse -/

/-- A terminal refuses a word that it does not know, and whatever begins with a modifier name. -/
structure Refuses {α : Type} (terminal : Terminal α) (names : List Char → α → Prop)
    (unknown : String → Error) (reach : List Char → List Char) : Prop where
  word : ∀ {name gap : List Char}, IsWord name → IsGap gap → (∀ target, ¬ names name target) →
    closing terminal (name ++ gap) = .error (unknown (String.ofList name))
  modifier : ∀ {entry : String × ModMask}, entry ∈ ModMask.registry → ∀ behind : List Char,
    closing terminal (entry.1.toList ++ behind) =
      .error (unknown (String.ofList (reach (entry.1.toList ++ behind))))

/-- Keys are looked up by the inked text in front. -/
theorem closing_keyTerminal_append {name behind : List Char} (hne : name ≠ []) (hink : IsInk name)
    (hb : ∀ c ∈ behind.head?, isBlank c = true) (hnone : Keysym.ofChars? name = none) :
    closing keyTerminal (name ++ behind) = .error (.unknownKey (String.ofList name)) := by
  rw [closing, keyTerminal_append hne hink hb, hnone]

theorem refuses_keyTerminal :
    Refuses keyTerminal KeyNamed .unknownKey (·.takeWhile (!isBlank ·)) where
  word {name gap} hword hgap hnames := by
    apply closing_keyTerminal_append hword.1 hword.isInk hgap.head?
    exact Option.eq_none_iff_forall_ne_some.2 fun key hkey =>
      hnames key ⟨hword.1, hword.isInk, hkey⟩
  modifier {entry} hentry behind := by
    have hentryWord := isWord_of_mem_registry hentry
    obtain ⟨name, rest, rfl, hname, hrest⟩ := exists_isInk_append behind
    have hink : IsInk (entry.1.toList ++ name) :=
      List.forall_mem_append.2 ⟨hentryWord.isInk, hname⟩
    have hreach : ((entry.1.toList ++ name) ++ rest).takeWhile (!isBlank ·) =
        entry.1.toList ++ name :=
      takeWhile_append_of_head? (fun c hc => by simp [hink c hc]) (fun c hc => by simp [hrest c hc])
    have hne : entry.1.toList ++ name ≠ [] := List.append_ne_nil_of_left_ne_nil hentryWord.1 _
    rw [← List.append_assoc, hreach]
    exact closing_keyTerminal_append hne hink hrest (Keysym.ofChars?_modifier_append hentry name)

/-- What is no button, less the blanks behind it, is refused as a whole. -/
theorem closing_buttonTerminal {text : List Char} (hne : trimEnd text ≠ [])
    (hnone : ∀ button, closing buttonTerminal text ≠ .ok button) :
    closing buttonTerminal text = .error (.unknownButton (String.ofList (trimEnd text))) := by
  have hfull : (String.ofList (trimEnd text)).isEmpty = false := by
    rw [Bool.eq_false_iff, ne_eq, String.isEmpty_iff]
    intro hempty
    exact hne (by simpa using congrArg String.toList hempty)
  cases hname : Button.ofName? (String.ofList (trimEnd text)) with
  | none => simp [closing, buttonTerminal, hfull, hname]
  | some button => exact absurd (by simp [closing, buttonTerminal, hfull, hname]) (hnone button)

/-- A text that starts with a word is not trimmed to nothing. -/
theorem trimEnd_append_ne_nil {name : List Char} (hname : IsWord name) (behind : List Char) :
    trimEnd (name ++ behind) ≠ [] := by
  intro hempty
  obtain ⟨gap, hgap, htext⟩ := exists_trimEnd_append_gap (name ++ behind)
  rw [hempty, List.nil_append] at htext
  have hsub : IsGap name := fun c hc => hgap c (htext ▸ List.mem_append_left behind hc)
  exact hname.1 (hsub.eq_nil_of_isInk hname.isInk)

theorem refuses_buttonTerminal : Refuses buttonTerminal ButtonNamed .unknownButton trimEnd where
  word {name gap} hword hgap hnames := by
    have hread := closing_buttonTerminal (trimEnd_append_ne_nil hword gap) fun button hok =>
      hnames button ((readsNames_buttonTerminal.closing_append_gap hword.isInk hgap button).1 hok)
    rwa [trimEnd_append_of_isGap hword.isInk hgap] at hread
  modifier {entry} hentry behind :=
    closing_buttonTerminal (trimEnd_append_ne_nil (isWord_of_mem_registry hentry) behind)
      fun button => readsNames_buttonTerminal.closing_modifier_append hentry behind button

/-! ## The five ways to refuse words -/

section

variable {α : Type} {terminal : Terminal α} {names : List Char → α → Prop}
  {unknown : String → Error} {reach : List Char → List Char} {known : String → Prop}
  {words : WordSequence} {text : List Char} {e : Error}

/-- What is no bare terminal and has no modifiers either. -/
theorem readFrom_of_malformed (hbare : ∀ target, closing terminal text ≠ .ok target)
    {why : Malformation} (h : modifiers text = .error (.malformed why)) :
    readFrom terminal text = .error (.malformed why) := by
  cases hclosing : closing terminal text with
  | ok target => exact absurd hclosing (hbare target)
  | error bare => simp only [readFrom, hclosing, h]

theorem readFrom_of_unknownModifier (hbare : ∀ target, closing terminal text ≠ .ok target)
    {name : String} (h : modifiers text = .error (.unknownModifier name))
    (hplus : wordPrecedesPlus text = true) :
    readFrom terminal text = .error (.unknownModifier name) := by
  cases hclosing : closing terminal text with
  | ok target => exact absurd hclosing (hbare target)
  | error bare => simp only [readFrom, hclosing, h, hplus, if_true]

theorem readFrom_of_held (hbare : ∀ target, closing terminal text ≠ .ok target) {mask : ModMask}
    {rest : List Char} (h : modifiers text = .ok (mask, rest))
    (hrest : closing terminal rest = .error e) : readFrom terminal text = .error e := by
  cases hclosing : closing terminal text with
  | ok target => exact absurd hclosing (hbare target)
  | error bare => simp only [readFrom, hclosing, h, hrest]

/-- Words that are no bare terminal once the blanks around them are taken off. -/
theorem ReadsNames.closing_ne_ok (h : ReadsNames terminal names)
    (hbare : ∀ target, ¬ names (trim words.chars) target) (target : α) :
    closing terminal (words.charsFrom words.joined) ≠ .ok target := by
  intro hread
  obtain ⟨name, gap, htext, hgap, hname⟩ := (h.closing_eq_ok_iff _ _).1 hread
  refine hbare target ?_
  rwa [trim, words.trimStart_chars, htext, trimEnd_append_of_isGap (h.isInk hname) hgap]

/-- Words are refused for what their diagnosis says. -/
theorem ReadsNames.readWith_of_diagnosis (h : ReadsNames terminal names)
    (hrefuses : Refuses terminal names unknown reach)
    (hknown : ∀ name : String, IsWord name.toList → ¬ known name →
      ∀ target, ¬ names name.toList target)
    (hbare : ∀ target, ¬ names (trim words.chars) target)
    (hdiagnosis : Diagnosis known unknown reach words e) :
    readWith terminal words.chars = .error e := by
  have hclosing := h.closing_ne_ok hbare
  have hends := endsModifiers_of_not_mem_plus words.not_mem_plus_last_trail
  rw [readWith, words.trimStart_chars]
  cases hdiagnosis with
  | unknownName held unresolved meant =>
    have hlast := hrefuses.word words.isWord_last words.isGap_trail
      (hknown words.last words.isWord_last unresolved)
    rw [String.ofList_toList] at hlast
    by_cases hsingle : words.joined = []
    · -- Nothing suggests a modifier, so that the bare terminal is what is told.
      have hread := modifiers_eq_error_of_modifier (modifier_append_of_plain words.isWord_last
        (fun c hc => Or.inl (words.isGap_trail.head? c hc)) (meant hsingle))
      obtain ⟨e', he', hplain⟩ := hends
      have hplus := hplain words.last (Except.error.inj (he'.symm.trans hread))
      rw [hsingle, words.charsFrom_nil, readFrom, hlast, hread]
      simp only [hplus, Bool.false_eq_true, if_false]
    · obtain ⟨front, hne, hfront⟩ := exists_heldModifiers held
      have hread := modifiers_flatMap_chars (hne hsingle) (words.isFlush_charsFrom []) hends
      rw [hfront] at hread
      exact readFrom_of_held hclosing hread hlast
  | @loneModifier entry single mem_registry begins =>
    obtain ⟨more, hmore⟩ := begins
    have hplus : (trimStart (more ++ words.trail)).head? ≠ some '+' := by
      intro hhead
      have hmem := (List.dropWhile_sublist _).subset (List.mem_of_mem_head? hhead)
      refine words.not_mem_plus_last_trail ?_
      rw [← hmore, List.append_assoc]
      exact List.mem_append_right _ hmem
    apply readFrom_of_malformed hclosing
    rw [single, words.charsFrom_nil, ← hmore, List.append_assoc]
    exact modifiers_append_of_no_plus mem_registry hplus
  | @unknownModifier front behind stray split held plain =>
    obtain ⟨modifiers, -, hfront⟩ := exists_heldModifiers held
    have hread := modifiers_flatMap_chars_of_unknown modifiers
      (stray.isFlush_chars_append (words.charsFrom behind)) (stray.modifiers_of_plain _ plain)
      (stray.wordPrecedesPlus_chars_append _)
    rw [hfront, ← words.charsFrom_cons, ← words.charsFrom_append, ← split] at hread
    exact readFrom_of_unknownModifier hclosing hread.1 hread.2.1
  | @missingPlus behind stray entry split other mem_registry begins =>
    apply readFrom_of_malformed hclosing
    rw [split, words.charsFrom_cons]
    exact JoinedWord.modifiers_of_begins _ mem_registry other begins
  | @unknownRest front behind stray split nonempty held other begins =>
    obtain ⟨entry, hentry, hbegins⟩ := begins
    obtain ⟨modifiers, hne, hfront⟩ := exists_heldModifiers held
    have hstray := JoinedWord.modifiers_of_begins (words.charsFrom behind) hentry other hbegins
    have hends' : EndsModifiers (stray.chars ++ words.charsFrom behind) :=
      ⟨_, hstray, fun _ he => by cases he⟩
    have hread := modifiers_flatMap_chars (hne nonempty)
      (stray.isFlush_chars_append (words.charsFrom behind)) hends'
    rw [hfront, ← words.charsFrom_cons, ← words.charsFrom_append, ← split] at hread
    obtain ⟨more, hmore⟩ := hbegins
    have hrest : words.charsFrom (stray :: behind) = entry.1.toList ++
        (more ++ (stray.before ++ '+' :: (stray.after ++ words.charsFrom behind))) := by
      rw [words.charsFrom_cons, stray.chars_append, ← hmore, List.append_assoc]
    apply readFrom_of_held hclosing hread
    rw [hrest]
    exact hrefuses.modifier hentry _

/-- A list whose elements do not all have a property has a first that does not. -/
theorem exists_first_of_not_forall {β : Type} {p : β → Prop} {items : List β}
    (h : ¬ ∀ item ∈ items, p item) : ∃ front item behind, items = front ++ item :: behind ∧
      (∀ other ∈ front, p other) ∧ ¬ p item := by
  classical
  cases hfind : items.find? fun item => decide (¬ p item) with
  | none =>
    have hall := List.find?_eq_none.1 hfind
    exact absurd (fun item hitem => by simpa using hall item hitem) h
  | some item =>
    obtain ⟨hitem, front, behind, hsplit, hfront⟩ := List.find?_eq_some_iff_append.1 hfind
    refine ⟨front, item, behind, hsplit, fun other hother => ?_, by simpa using hitem⟩
    simpa using hfront other hother

/-- Words have a diagnosis, unless they are modifiers and a name that is known. -/
theorem exists_diagnosis (known : String → Prop) (unknown : String → Error)
    (reach : List Char → List Char) (words : WordSequence) :
    (∃ e, Diagnosis known unknown reach words e) ∨
      (∀ joined ∈ words.joined, IsModifierName joined.word) ∧ known words.last := by
  by_cases held : ∀ joined ∈ words.joined, IsModifierName joined.word
  · by_cases hlast : known words.last
    · exact Or.inr ⟨held, hlast⟩
    · by_cases hlone : words.joined = [] ∧ BeginsWithModifier words.last
      · obtain ⟨hsingle, entry, hentry, hbegins⟩ := hlone
        exact Or.inl ⟨_, .loneModifier hsingle hentry hbegins⟩
      · exact Or.inl ⟨_, .unknownName held hlast fun hsingle hbegins => hlone ⟨hsingle, hbegins⟩⟩
  · left
    obtain ⟨front, stray, behind, hsplit, hfront, hstray⟩ :
        ∃ front stray behind, words.joined = front ++ stray :: behind ∧
          (∀ joined ∈ front, IsModifierName joined.word) ∧ ¬ IsModifierName stray.word :=
      exists_first_of_not_forall held
    by_cases hbegins : BeginsWithModifier stray.word
    · cases front with
      | nil =>
        obtain ⟨entry, hentry, hprefix⟩ := hbegins
        exact ⟨_, .missingPlus hsplit hstray hentry hprefix⟩
      | cons first rest =>
        exact ⟨_, .unknownRest hsplit (List.cons_ne_nil _ _) hfront hstray hbegins⟩
    · exact ⟨_, .unknownModifier hsplit hfront hbegins⟩

/-- Words are refused exactly for what their diagnosis says, unless they are a bare terminal. -/
theorem ReadsNames.readWith_eq_error_iff (h : ReadsNames terminal names)
    (hrefuses : Refuses terminal names unknown reach)
    (hknown : ∀ name : String, IsWord name.toList →
      (known name ↔ ∃ target, names name.toList target)) :
    readWith terminal words.chars = .error e ↔
      (∀ target, ¬ names (trim words.chars) target) ∧ Diagnosis known unknown reach words e := by
  have hunknown : ∀ name : String, IsWord name.toList → ¬ known name →
      ∀ target, ¬ names name.toList target := fun name hname hnot target htarget =>
    hnot ((hknown name hname).2 ⟨target, htarget⟩)
  constructor
  · intro hread
    have hbare : ∀ target, ¬ names (trim words.chars) target := by
      intro target hname
      obtain ⟨lead, hlead, htext⟩ := exists_gap_append_trimStart words.chars
      obtain ⟨trail, htrail, hrest⟩ := exists_trimEnd_append_gap (trimStart words.chars)
      have hwritten : Written names words.chars ⟨.none, target⟩ := by
        rw [htext, hrest, ← List.append_assoc]
        exact .bare hlead htrail hname
      rw [h.readWith_of_written hwritten] at hread
      cases hread
    refine ⟨hbare, ?_⟩
    rcases exists_diagnosis known unknown reach words with ⟨e', hdiagnosis⟩ | ⟨held, hlast⟩
    · have hread' := h.readWith_of_diagnosis hrefuses hunknown hbare hdiagnosis
      rwa [← Except.error.inj (hread'.symm.trans hread)]
    · obtain ⟨form, hname, hchars⟩ := words.exists_writtenForm held
      obtain ⟨target, htarget⟩ := (hknown words.last words.isWord_last).1 hlast
      have hok := (h.readWith_chars_eq_ok_iff form ⟨form.mods, target⟩).2 ⟨hname ▸ htarget, rfl⟩
      rw [hchars, hread] at hok
      cases hok
  · rintro ⟨hbare, hdiagnosis⟩
    exact h.readWith_of_diagnosis hrefuses hunknown hbare hdiagnosis

end

/-- Trimmed words are a bare key if and only if they have the name of one, since no key has a blank
in its name. -/
theorem WordSequence.ofName?_trimmed_eq_none_iff (words : WordSequence) :
    Keysym.ofName? words.trimmed = none ↔ ∀ key, ¬ KeyNamed (trim words.chars) key := by
  rw [Option.eq_none_iff_forall_ne_some, Keysym.ofName?, trimmed, String.toList_ofList]
  constructor
  · exact fun h key hkey => h key hkey.2.2
  · intro h key hkey
    have hink : IsInk (trim words.chars) := by
      rcases Keysym.ofChars?_eq_some_iff_form.1 hkey with hdocumented | hsigned
      · exact hdocumented.isWord.isInk
      · exact hsigned.isInk
    have hne : trim words.chars ≠ [] := by
      intro hempty
      rw [hempty] at hkey
      cases hkey
    exact h key ⟨hne, hink, hkey⟩

/-- Words joined by plus signs, with blanks anywhere around them, are refused exactly if they are no
bare terminal and have a diagnosis, and then for that. -/
theorem refused_words_diagnosis (words : WordSequence) (e : Error) :
    (readKey words.text = .error e ↔
      Keysym.ofName? words.trimmed = none ∧ KeyDiagnosis words e) ∧
    (readButton words.text = .error e ↔
      Button.ofName? words.trimmed = none ∧ ButtonDiagnosis words e) := by
  constructor
  · rw [readKey, WordSequence.text, String.toList_ofList, words.ofName?_trimmed_eq_none_iff]
    apply readsNames_keyTerminal.readWith_eq_error_iff refuses_keyTerminal
    intro name hname
    rw [Option.ne_none_iff_exists']
    exact exists_congr fun key => ⟨fun h => ⟨hname.1, hname.isInk, h⟩, fun h => h.2.2⟩
  · have hnamed (name : String) (button : Button) :
        Button.ofName? name = some button ↔ ButtonNamed name.toList button := by
      rw [Button.ofName?_eq_some_iff, ButtonNamed, String.toList_inj]
    have htrimmed : Button.ofName? words.trimmed = none ↔
        ∀ button, ¬ ButtonNamed (trim words.chars) button := by
      rw [Option.eq_none_iff_forall_ne_some]
      refine forall_congr' fun button => not_congr ?_
      rw [hnamed, WordSequence.trimmed, String.toList_ofList]
    rw [readButton, WordSequence.text, String.toList_ofList, htrimmed]
    apply readsNames_buttonTerminal.readWith_eq_error_iff refuses_buttonTerminal
    intro name _
    rw [Option.ne_none_iff_exists']
    exact exists_congr fun button => hnamed name button

/-- A word with a plus sign behind it, and a space on either side of that. -/
def JoinedWord.spaced (word : String) (h : IsWord word.toList) : JoinedWord :=
  ⟨word, [' '], [' '], h, isGap_space, isGap_space⟩

/-- A modifier with its plus sign. -/
def joinedSuper : JoinedWord := .spaced "super" (isWord_of_all (by decide) (by decide))

/-- A word with its plus sign that begins with the name of a modifier. -/
def joinedAltx : JoinedWord := .spaced "altx" (isWord_of_all (by decide) (by decide))

/-- These two and a key. -/
def superAltx : WordSequence where
  lead := []
  joined := [joinedSuper, joinedAltx]
  last := "p"
  trail := []
  isGap_lead := isGap_nil
  isWord_last := isWord_of_all (by decide) (by decide)
  isGap_trail := isGap_nil

/-- A key is looked for up to the next blank, and a button up to the end. -/
theorem refused_words_diagnosis_altx :
    superAltx.text = "super + altx + p" ∧
      readKey superAltx.text = .error (.unknownKey "altx") ∧
      readButton superAltx.text = .error (.unknownButton "altx + p") := by
  have hsplit : superAltx.joined = [joinedSuper] ++ [joinedAltx] := rfl
  have hheld : ∀ joined ∈ [joinedSuper], IsModifierName joined.word :=
    List.forall_mem_singleton.2 ⟨("super", .superKey), by decide, rfl⟩
  have hother : ¬ IsModifierName joinedAltx.word := by
    rintro ⟨entry, hentry, hname⟩
    revert entry
    decide
  have hbegins : BeginsWithModifier joinedAltx.word := ⟨("alt", .altKey), by decide, by decide⟩
  have hkey : KeyDiagnosis superAltx
      (.unknownKey (String.ofList ((superAltx.charsFrom [joinedAltx]).takeWhile (!isBlank ·)))) :=
    .unknownRest hsplit (List.cons_ne_nil _ _) hheld hother hbegins
  have hbutton : ButtonDiagnosis superAltx
      (.unknownButton (String.ofList (trimEnd (superAltx.charsFrom [joinedAltx])))) :=
    .unknownRest hsplit (List.cons_ne_nil _ _) hheld hother hbegins
  rw [show String.ofList ((superAltx.charsFrom [joinedAltx]).takeWhile (!isBlank ·)) = "altx" by
    decide] at hkey
  rw [show String.ofList (trimEnd (superAltx.charsFrom [joinedAltx])) = "altx + p" by
    decide] at hbutton
  -- There is a blank inside, and in no name of a key.
  have hnoKey : Keysym.ofName? superAltx.trimmed = none :=
    superAltx.ofName?_trimmed_eq_none_iff.2 fun key hkey =>
      absurd (hkey.2.1 ' ' (by decide)) (by decide)
  exact ⟨by decide, (refused_words_diagnosis superAltx _).1.2 ⟨hnoKey, hkey⟩,
    (refused_words_diagnosis superAltx _).2.2 ⟨by decide, hbutton⟩⟩

end TilingConfig.Binding
