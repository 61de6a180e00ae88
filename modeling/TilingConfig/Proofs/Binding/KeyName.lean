import TilingConfig.Proofs.Binding.CanonicalName

/-!
# The names of keys

A name is looked up in five ways, one after the other. The forms that the ways accept have
no name in common, so that their order does not matter and a name is accepted exactly if it
has one of the forms. These are the documented ones, and two more: the number of a function
key and a raw number may have a plus sign in front.
-/

namespace TilingConfig.Binding.Keysym

open TilingConfig.CoreInstances TilingConfig.Text

/-- The documented names of keys: those of the table, single letters and digits, function keys with
a number from 1 to 35 that does not start with a zero, raw numbers, and code points. -/
inductive Documented : List Char → Keysym → Prop
  | listed (name : String) (code : UInt32) (mem : (name, code) ∈ names) :
      Documented name.toList ⟨code⟩
  | character (c : Char) (isAlphanum : c.isAlphanum = true) : Documented [c] ⟨c.val⟩
  | functionKey {digits : List Char} {n : Nat} {key : Keysym} (spells : Spells 10 digits n)
      (noZero : digits.head? ≠ some '0') (pos : 1 ≤ n) (le : n ≤ 35)
      (code : key.code.toNat = 0xffbe + n - 1) : Documented ('F' :: digits) key
  | raw {digits : List Char} {key : Keysym} (spells : Spells 16 digits key.code.toNat)
      (pos : 1 ≤ key.code.toNat) : Documented ('0' :: 'x' :: digits) key
  | latin {digits : List Char} {key : Keysym} (spells : Spells 16 digits key.code.toNat)
      (short : digits.length ≤ 6)
      (range : 0x20 ≤ key.code.toNat ∧ key.code.toNat ≤ 0x7e ∨
        0xa0 ≤ key.code.toNat ∧ key.code.toNat ≤ 0xff) : Documented ('U' :: digits) key
  | codePoint {digits : List Char} {n : Nat} {key : Keysym} (spells : Spells 16 digits n)
      (short : digits.length ≤ 6) (range : 0x100 ≤ n ∧ n ≤ 0x10ffff)
      (code : key.code.toNat = 0x01000000 + n) : Documented ('U' :: digits) key

/-- The numbers that are accepted with a plus sign in front, zeros behind it or not. -/
inductive Signed : List Char → Keysym → Prop
  | functionKey {digits : List Char} {n : Nat} {key : Keysym} (spells : Spells 10 digits n)
      (pos : 1 ≤ n) (le : n ≤ 35) (code : key.code.toNat = 0xffbe + n - 1) :
      Signed ('F' :: '+' :: digits) key
  | raw {digits : List Char} {key : Keysym} (spells : Spells 16 digits key.code.toNat)
      (pos : 1 ≤ key.code.toNat) : Signed ('0' :: 'x' :: '+' :: digits) key

variable {name digits : List Char} {code : UInt32} {key : Keysym}

/-- A number below the bound is the code of one key. -/
theorem ofNat_eq_iff {n : Nat} (hn : n < 2 ^ (32 : Nat)) :
    UInt32.ofNat n = code ↔ code.toNat = n := by
  rw [← UInt32.toNat_inj, UInt32.toNat_ofNat', Nat.mod_eq_of_lt hn, eq_comm]

/-! ## The single ways to look a name up -/

theorem named?_eq_some_iff :
    named? name = some code ↔ ∃ text : String, (text, code) ∈ names ∧ name = text.toList := by
  constructor
  · intro h
    obtain ⟨entry, hfind, rfl⟩ := Option.map_eq_some_iff.1 h
    have hname := List.find?_some hfind
    exact ⟨entry.1, List.mem_of_find?_eq_some hfind, (beq_iff_eq.1 hname).symm⟩
  · rintro ⟨text, hmem, rfl⟩
    exact named?_of_mem hmem

theorem alphanumeric?_eq_some_iff :
    alphanumeric? name = some code ↔
      ∃ c : Char, c.isAlphanum = true ∧ name = [c] ∧ code = c.val := by
  unfold alphanumeric?
  constructor
  · intro h
    split at h
    · next c =>
      split at h
      · next hc => exact ⟨c, hc, rfl, (Option.some.inj h).symm⟩
      · cases h
    · cases h
  · rintro ⟨c, hc, rfl, rfl⟩
    exact if_pos hc

theorem alphanumeric?_cons_eq_none {c : Char} (h : digits ≠ []) :
    alphanumeric? (c :: digits) = none := by
  cases digits with
  | nil => exact absurd rfl h
  | cons => rfl

/-- The number of a function key has no zero in front, or a plus sign. -/
theorem functionKey?_eq_some_iff :
    functionKey? name = some code ↔
      ∃ digits n, (name = 'F' :: digits ∧ digits.head? ≠ some '0' ∨ name = 'F' :: '+' :: digits) ∧
        Spells 10 digits n ∧ 1 ≤ n ∧ n ≤ 35 ∧ code.toNat = 0xffbe + n - 1 := by
  have hcode {n : Nat} (hn : n ≤ 35) :
      UInt32.ofNat (firstFunctionKey + n - 1) = code ↔ code.toNat = 0xffbe + n - 1 :=
    ofNat_eq_iff (by rw [firstFunctionKey]; omega)
  unfold functionKey?
  constructor
  · intro h
    split at h
    · next numeral =>
      split at h
      · cases h
      · next hzero =>
        split at h
        · next n hread =>
          split at h
          · next hrange =>
            have hn := (hcode hrange.2).1 (Option.some.inj h)
            obtain ⟨-, digits, rfl | rfl, hspells⟩ :=
              (unsigned?_eq_some_iff_of_pos (by decide) (by omega)).1 hread
            · exact ⟨numeral, n, Or.inl ⟨rfl, hzero⟩, hspells, hrange.1, hrange.2, hn⟩
            · exact ⟨digits, n, Or.inr rfl, hspells, hrange.1, hrange.2, hn⟩
          · cases h
        · cases h
    · cases h
  · rintro ⟨digits, n, hname, hspells, hpos, hle, hn⟩
    have hread {numeral : List Char} (hnumeral : numeral = digits ∨ numeral = '+' :: digits) :
        unsigned? 10 (2 ^ (32 : Nat)) numeral = some n :=
      (unsigned?_eq_some_iff_of_pos (by decide) (by omega)).2 ⟨by omega, digits, hnumeral, hspells⟩
    rcases hname with ⟨rfl, hzero⟩ | rfl
    · simp only [hzero, if_false, hread (Or.inl rfl), hpos, hle, and_self, if_true]
      rw [(hcode hle).2 hn]
    · simp only [List.head?_cons, Option.some.injEq, Char.reduceEq, if_false, hread (Or.inr rfl),
        hpos, hle, and_self, if_true]
      rw [(hcode hle).2 hn]

/-- A raw number may have a plus sign in front. -/
theorem raw?_eq_some_iff :
    raw? name = some code ↔
      ∃ digits, (name = '0' :: 'x' :: digits ∨ name = '0' :: 'x' :: '+' :: digits) ∧
        Spells 16 digits code.toNat ∧ 1 ≤ code.toNat := by
  unfold raw?
  constructor
  · intro h
    split at h
    · next numeral =>
      split at h
      · next n hread =>
        split at h
        · cases h
        · next hne =>
          obtain rfl := (ofNat_eq_iff (lt_of_unsigned?_eq_some hread)).1 (Option.some.inj h)
          obtain ⟨-, digits, rfl | rfl, hspells⟩ :=
            (unsigned?_eq_some_iff_of_pos (by decide) hne).1 hread
          · exact ⟨numeral, Or.inl rfl, hspells, by omega⟩
          · exact ⟨digits, Or.inr rfl, hspells, by omega⟩
      · cases h
    · cases h
  · rintro ⟨digits, hname, hspells, hpos⟩
    have hne : code.toNat ≠ 0 := by omega
    have hread {numeral : List Char} (hnumeral : numeral = digits ∨ numeral = '+' :: digits) :
        unsigned? 16 (2 ^ (32 : Nat)) numeral = some code.toNat :=
      (unsigned?_eq_some_iff_of_pos (by decide) hne).2
        ⟨code.toNat_lt, digits, hnumeral, hspells⟩
    rcases hname with rfl | rfl
    · simp only [hread (Or.inl rfl), hne, if_false, UInt32.ofNat_toNat]
    · simp only [hread (Or.inr rfl), hne, if_false, UInt32.ofNat_toNat]

/-- A character of Latin-1 has its own code, any other one the marked code. -/
theorem ofCodePoint?_eq_some_iff {n : Nat} :
    ofCodePoint? n = some code ↔
      (0x20 ≤ n ∧ n ≤ 0x7e ∨ 0xa0 ≤ n ∧ n ≤ 0xff) ∧ code.toNat = n ∨
        (0x100 ≤ n ∧ n ≤ 0x10ffff) ∧ code.toNat = 0x01000000 + n := by
  unfold ofCodePoint?
  split
  · next hlatin =>
    rw [Option.some.injEq, ofNat_eq_iff (by omega)]
    omega
  · next hlatin =>
    split
    · next hrange =>
      rw [Option.some.injEq, ofNat_eq_iff (by omega)]
      omega
    · next hrange => simp [hlatin, hrange]

/-- A code point has no sign. -/
theorem codePoint?_eq_some_iff :
    codePoint? name = some code ↔
      ∃ digits n, name = 'U' :: digits ∧ digits.length ≤ 6 ∧ Spells 16 digits n ∧
        ofCodePoint? n = some code := by
  unfold codePoint?
  constructor
  · intro h
    split at h
    · next digits =>
      split at h
      · cases h
      · next hshort =>
        obtain ⟨n, hread, hcode⟩ := Option.bind_eq_some_iff.1 h
        have hspells := ((natural?_eq_some_iff (by decide)).1 hread).2
        exact ⟨digits, n, rfl, Nat.le_of_not_lt hshort, hspells, hcode⟩
    · cases h
  · rintro ⟨digits, n, rfl, hshort, hspells, hcode⟩
    have hne : n ≠ 0 := by
      rintro rfl
      cases hcode
    have hread := (natural?_eq_some_iff_of_pos (by decide) hne).2 hspells
    simp only [Nat.not_lt.2 hshort, if_false, hread, Option.bind_some, hcode]

/-! ## All ways together -/

/-- No name of the table has a systematic form as well. -/
theorem systematic_eq_none_of_named? (h : named? name = some code) :
    alphanumeric? name = none ∧ functionKey? name = none ∧ raw? name = none ∧
      codePoint? name = none := by
  have htable : ∀ entry ∈ names, alphanumeric? entry.1.toList = none ∧
      functionKey? entry.1.toList = none ∧ raw? entry.1.toList = none ∧
        codePoint? entry.1.toList = none := by decide +kernel
  obtain ⟨text, hmem, rfl⟩ := named?_eq_some_iff.1 h
  exact htable (text, code) hmem

/-- A name is a key exactly if one of the ways finds it: where a later one does, no earlier one
does. -/
theorem ofChars?_eq_some_iff :
    ofChars? name = some key ↔
      named? name = some key.code ∨ alphanumeric? name = some key.code ∨
        functionKey? name = some key.code ∨ raw? name = some key.code ∨
          codePoint? name = some key.code := by
  have hnamed {result : Option UInt32} (hresult : result = some key.code)
      (h : ∀ code, named? name = some code → result = none) : named? name = none := by
    rw [Option.eq_none_iff_forall_ne_some]
    intro code hcode
    rw [h code hcode] at hresult
    cases hresult
  have hmap : ofChars? name = some key ↔ (((named? name).or (alphanumeric? name)).or
      (functionKey? name)).or ((raw? name).or (codePoint? name)) = some key.code := by
    obtain ⟨code⟩ := key
    simp [ofChars?]
  rw [hmap]
  constructor
  · intro h
    simp only [Option.or_eq_some_iff] at h
    tauto
  · rintro (h | h | h | h | h)
    · simp only [h, Option.some_or]
    · have hfirst := hnamed h fun _ hcode => (systematic_eq_none_of_named? hcode).1
      simp only [hfirst, h, Option.none_or, Option.some_or]
    · have hfirst := hnamed h fun _ hcode => (systematic_eq_none_of_named? hcode).2.1
      have halpha : alphanumeric? name = none := by
        obtain ⟨digits, n, ⟨rfl, -⟩ | rfl, hspells, hpos, -⟩ := functionKey?_eq_some_iff.1 h
        · exact alphanumeric?_cons_eq_none (hspells.ne_nil (by omega))
        · exact alphanumeric?_cons_eq_none (List.cons_ne_nil _ _)
      simp only [hfirst, halpha, h, Option.none_or, Option.some_or]
    · have hfirst := hnamed h fun _ hcode => (systematic_eq_none_of_named? hcode).2.2.1
      have hothers : alphanumeric? name = none ∧ functionKey? name = none := by
        obtain ⟨digits, rfl | rfl, -⟩ := raw?_eq_some_iff.1 h <;> exact ⟨rfl, rfl⟩
      simp only [hfirst, hothers, h, Option.none_or, Option.some_or]
    · have hfirst := hnamed h fun _ hcode => (systematic_eq_none_of_named? hcode).2.2.2
      have hothers : alphanumeric? name = none ∧ functionKey? name = none ∧ raw? name = none := by
        obtain ⟨digits, n, rfl, -, hspells, hcode⟩ := codePoint?_eq_some_iff.1 h
        have hne : n ≠ 0 := by
          rintro rfl
          cases hcode
        exact ⟨alphanumeric?_cons_eq_none (hspells.ne_nil hne), rfl, rfl⟩
      simp only [hfirst, hothers, h, Option.none_or]

/-- The accepted names are the documented ones and those with a plus sign before a number. -/
theorem ofChars?_eq_some_iff_form :
    ofChars? name = some key ↔ Documented name key ∨ Signed name key := by
  obtain ⟨code⟩ := key
  rw [ofChars?_eq_some_iff, named?_eq_some_iff, alphanumeric?_eq_some_iff,
    functionKey?_eq_some_iff, raw?_eq_some_iff, codePoint?_eq_some_iff]
  constructor
  · rintro (⟨text, hmem, rfl⟩ | ⟨c, hc, rfl, rfl⟩ | ⟨digits, n, hname, hspells, hpos, hle, hcode⟩ |
      ⟨digits, hname, hspells, hpos⟩ | ⟨digits, n, rfl, hshort, hspells, hcode⟩)
    · exact Or.inl (.listed text code hmem)
    · exact Or.inl (.character c hc)
    · rcases hname with ⟨rfl, hzero⟩ | rfl
      · exact Or.inl (.functionKey hspells hzero hpos hle hcode)
      · exact Or.inr (.functionKey hspells hpos hle hcode)
    · rcases hname with rfl | rfl
      · exact Or.inl (.raw hspells hpos)
      · exact Or.inr (.raw hspells hpos)
    · rcases ofCodePoint?_eq_some_iff.1 hcode with ⟨hrange, rfl⟩ | ⟨hrange, hmarked⟩
      · exact Or.inl (.latin hspells hshort hrange)
      · exact Or.inl (.codePoint hspells hshort hrange hmarked)
  · rintro (h | h)
    · cases h with
      | listed text _ hmem => exact Or.inl ⟨text, hmem, rfl⟩
      | character c hc => exact Or.inr (Or.inl ⟨c, hc, rfl, rfl⟩)
      | functionKey hspells hzero hpos hle hcode =>
        exact Or.inr (Or.inr (Or.inl ⟨_, _, Or.inl ⟨rfl, hzero⟩, hspells, hpos, hle, hcode⟩))
      | raw hspells hpos =>
        exact Or.inr (Or.inr (Or.inr (Or.inl ⟨_, Or.inl rfl, hspells, hpos⟩)))
      | latin hspells hshort hrange =>
        have hcode := ofCodePoint?_eq_some_iff.2 (Or.inl ⟨hrange, rfl⟩)
        exact Or.inr (Or.inr (Or.inr (Or.inr ⟨_, _, rfl, hshort, hspells, hcode⟩)))
      | codePoint hspells hshort hrange hmarked =>
        have hcode := ofCodePoint?_eq_some_iff.2 (Or.inr ⟨hrange, hmarked⟩)
        exact Or.inr (Or.inr (Or.inr (Or.inr ⟨_, _, rfl, hshort, hspells, hcode⟩)))
    · cases h with
      | functionKey hspells hpos hle hcode =>
        exact Or.inr (Or.inr (Or.inl ⟨_, _, Or.inr rfl, hspells, hpos, hle, hcode⟩))
      | raw hspells hpos =>
        exact Or.inr (Or.inr (Or.inr (Or.inl ⟨_, Or.inr rfl, hspells, hpos⟩)))

/-! ## Separators in names -/

/-- Letters and digits in front of a number make a word with it. -/
theorem isWord_append_of_spells {base n : Nat} (front : List Char) (hbase : base ≤ 16)
    (hfront : front.all Char.isAlphanum = true) (hne : front ≠ []) (h : Spells base digits n) :
    IsWord (front ++ digits) := by
  refine isWord_of_isAlphanum (List.append_ne_nil_of_left_ne_nil hne digits) ?_
  exact List.forall_mem_append.2 ⟨List.all_eq_true.1 hfront, h.isAlphanum hbase⟩

/-- A number has no blanks, so there are none behind a text without blanks. -/
theorem isInk_append_of_spells {base n : Nat} {front : List Char} (hbase : base ≤ 16)
    (hfront : IsInk front) (h : Spells base digits n) : IsInk (front ++ digits) := by
  refine List.forall_mem_append.2 ⟨hfront, fun c hc => ?_⟩
  exact isBlank_eq_false_of_isAlphanum (h.isAlphanum hbase c hc)

/-- A documented name can stand behind modifiers. -/
theorem Documented.isWord (h : Documented name key) : IsWord name := by
  cases h with
  | listed text code hmem => exact isWord_of_mem_names hmem
  | character c hc =>
    exact isWord_of_isAlphanum (List.cons_ne_nil _ _) (List.forall_mem_singleton.2 hc)
  | functionKey hspells =>
    exact isWord_append_of_spells ['F'] (by decide) rfl (List.cons_ne_nil _ _) hspells
  | raw hspells =>
    exact isWord_append_of_spells ['0', 'x'] (by decide) rfl (List.cons_ne_nil _ _) hspells
  | latin hspells =>
    exact isWord_append_of_spells ['U'] (by decide) rfl (List.cons_ne_nil _ _) hspells
  | codePoint hspells =>
    exact isWord_append_of_spells ['U'] (by decide) rfl (List.cons_ne_nil _ _) hspells

/-- A name with a signed number holds the separator. -/
theorem Signed.mem_plus (h : Signed name key) : '+' ∈ name := by
  cases h with
  | functionKey => simp
  | raw => simp

/-- A name with a signed number holds no blank. -/
theorem Signed.isInk (h : Signed name key) : IsInk name := by
  cases h with
  | functionKey hspells =>
    have hfront : IsInk ['F', '+'] := by simp [IsInk, isBlank]
    exact isInk_append_of_spells (by decide) hfront hspells
  | raw hspells =>
    have hfront : IsInk ['0', 'x', '+'] := by simp [IsInk, isBlank]
    exact isInk_append_of_spells (by decide) hfront hspells

/-- The language of key names: the documented names, and two forms that hold a plus sign before a
number. The documented names are just the accepted ones without the separator, and no accepted name
holds a blank. -/
theorem key_name_language (text : String) (key : Keysym) :
    (ofName? text = some key ↔ Documented text.toList key ∨ Signed text.toList key) ∧
      (Documented text.toList key ↔ ofName? text = some key ∧ '+' ∉ text.toList) ∧
      (ofName? text = some key → IsInk text.toList) := by
  have hform : ofName? text = some key ↔
      Documented text.toList key ∨ Signed text.toList key := ofChars?_eq_some_iff_form
  refine ⟨hform, ⟨fun h => ⟨hform.2 (Or.inl h), h.isWord.not_mem_plus⟩, ?_⟩, ?_⟩
  · rintro ⟨h, hplus⟩
    exact (hform.1 h).resolve_right fun hsigned => hplus hsigned.mem_plus
  · intro h
    rcases hform.1 h with hdocumented | hsigned
    · exact hdocumented.isWord.isInk
    · exact hsigned.isInk

/-- A raw number and the number of a function key are accepted with a plus sign, the latter with a
zero behind it, and no documented name has these forms. -/
theorem signed_numbers_accepted :
    ofName? "0x+5" = some ⟨5⟩ ∧ ofName? "F+05" = some ⟨0xffc2⟩ ∧
      (∀ key, ¬ Documented "0x+5".toList key) ∧ ∀ key, ¬ Documented "F+05".toList key := by
  refine ⟨by decide +kernel, by decide +kernel, fun key h => ?_, fun key h => ?_⟩
  · exact h.isWord.not_mem_plus (by decide)
  · exact h.isWord.not_mem_plus (by decide)

end TilingConfig.Binding.Keysym
