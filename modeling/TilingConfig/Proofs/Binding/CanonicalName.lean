import Mathlib.Data.List.Nodup
import TilingConfig.Proofs.Binding.Name
import TilingConfig.Proofs.Binding.WrittenForm
import TilingConfig.Proofs.Text.Numeral

/-!
# Canonical key names

Every key number has one printed name, of one of four forms, and each form is read back
by the lookup that it is meant for: the names of the table differ from each other and
from all systematic forms, so no earlier lookup takes a name for another key. Only the
number zero is printed in a form that no lookup accepts.
-/

namespace TilingConfig.Binding.Keysym

open TilingConfig.CoreInstances TilingConfig.Text

/-- The forms that are kept free of the table: a single character, what starts with a zero, and
`F` with digits. -/
def isSystematic (name : List Char) : Bool :=
  name.length == 1 || name.head? == some '0' ||
    (name.head? == some 'F' && name.tail.all Char.isDigit)

/-- No systematic name is in the table. -/
theorem named?_eq_none_of_isSystematic {name : List Char} (h : isSystematic name = true) :
    named? name = none := by
  have htable : ∀ entry ∈ names, isSystematic entry.1.toList = false := by decide +kernel
  apply named?_eq_none
  intro entry hentry heq
  rw [← heq, htable entry hentry] at h
  cases h

/-- No name stands twice in the table, so each entry is found by its name. -/
theorem named?_of_mem {entry : String × UInt32} (h : entry ∈ names) :
    named? entry.1.toList = some entry.2 := by
  have hnodup : (names.map Prod.fst).Nodup := by decide +kernel
  cases hfind : names.find? (fun other => other.1.toList == entry.1.toList) with
  | none => exact absurd (beq_self_eq_true _) (List.find?_eq_none.1 hfind entry h)
  | some other =>
    have hmem : other ∈ names := List.mem_of_find?_eq_some hfind
    have hname := List.find?_some hfind
    simp only [beq_iff_eq, String.toList_inj] at hname
    obtain rfl : other = entry := List.inj_on_of_nodup_map hnodup hmem h hname
    rw [named?, hfind, Option.map_some]

/-- The name of a table entry can stand behind modifiers. -/
theorem isWord_of_mem_names {entry : String × UInt32} (h : entry ∈ names) :
    IsWord entry.1.toList := by
  have htable : ∀ entry ∈ names, entry.1.toList ≠ [] ∧
      entry.1.toList.all (fun c => c.isAlphanum || c == '_') = true := by decide +kernel
  obtain ⟨hne, hall⟩ := htable entry h
  refine ⟨hne, fun c hc => ?_⟩
  have hchar : c.isAlphanum = true ∨ c = '_' := by simpa using List.all_eq_true.1 hall c hc
  rcases hchar with halpha | rfl
  · refine ⟨isBlank_eq_false_of_isAlphanum halpha, ?_⟩
    rintro rfl
    exact absurd halpha (by decide)
  · exact ⟨by decide, by decide⟩

/-- A name of letters and digits can stand behind modifiers. -/
theorem isWord_of_isAlphanum {name : List Char} (hne : name ≠ [])
    (h : ∀ c ∈ name, c.isAlphanum = true) : IsWord name := by
  refine ⟨hne, fun c hc => ⟨isBlank_eq_false_of_isAlphanum (h c hc), ?_⟩⟩
  rintro rfl
  exact absurd (h '+' hc) (by decide)

/-! ## The printed forms -/

/-- The forms in which keys are printed. -/
inductive Canonical : List Char → Keysym → Prop
  | character (c : Char) (isAlphanum : c.isAlphanum = true) : Canonical [c] ⟨c.val⟩
  | functionKey (n : Nat) (pos : 1 ≤ n) (le : n ≤ 35) :
      Canonical ('F' :: Nat.toDigits 10 n) ⟨UInt32.ofNat (firstFunctionKey + n - 1)⟩
  | listed (entry : String × UInt32) (mem : entry ∈ names) : Canonical entry.1.toList ⟨entry.2⟩
  | raw (code : UInt32) : Canonical ('0' :: 'x' :: Nat.toDigits 16 code.toNat) ⟨code⟩

/-- Every key is printed in one of the forms. -/
theorem canonical_render (key : Keysym) : Canonical key.render.toList key := by
  obtain ⟨code⟩ := key
  rw [render, name?]
  dsimp only
  split
  · next h =>
    have hvalid : code.toNat.isValidChar := Or.inl (by omega)
    have hval : (Char.ofNat code.toNat).val = code := by
      rw [Char.ofNat, dif_pos hvalid]
      exact UInt32.toNat_inj.1 rfl
    have hform := Canonical.character _ h.2
    rw [hval] at hform
    simpa using hform
  · split
    · next h =>
      have hcode : firstFunctionKey + (code.toNat - firstFunctionKey + 1) - 1 = code.toNat := by
        omega
      have hform := Canonical.functionKey (code.toNat - firstFunctionKey + 1) (by omega) (by omega)
      rw [hcode, UInt32.ofNat_toNat] at hform
      simpa using hform
    · cases hfind : names.find? (fun entry => entry.2 == code) with
      | none => simpa [hexadecimal] using Canonical.raw code
      | some entry =>
        have hmem := List.mem_of_find?_eq_some hfind
        have hcode : entry.2 = code := by simpa using List.find?_some hfind
        simpa [hcode] using Canonical.listed entry hmem

variable {name : List Char} {key : Keysym}

/-- A printed name can stand behind modifiers. -/
theorem Canonical.isWord (h : Canonical name key) : IsWord name := by
  have hdigits {base n : Nat} (hbase : 1 < base) (hmax : base ≤ 16) :
      ∀ c ∈ Nat.toDigits base n, c.isAlphanum = true := fun c hc =>
    isAlphanum_of_digitValue? (isSome_digitValue?_of_natural? (natural?_toDigits hbase hmax n) c hc)
  cases h with
  | character c hc => exact isWord_of_isAlphanum (List.cons_ne_nil _ _) (by simpa using hc)
  | functionKey n _ _ =>
    refine isWord_of_isAlphanum (List.cons_ne_nil _ _) (List.forall_mem_cons.2 ⟨by decide, ?_⟩)
    exact hdigits (by decide) (by decide)
  | listed entry hmem => exact isWord_of_mem_names hmem
  | raw code =>
    refine isWord_of_isAlphanum (List.cons_ne_nil _ _) (List.forall_mem_cons.2 ⟨by decide, ?_⟩)
    exact List.forall_mem_cons.2 ⟨by decide, hdigits (by decide) (by decide)⟩

/-- A printed name is read as its key, the number zero excepted. -/
theorem Canonical.ofChars? (h : Canonical name key) (hcode : key.code ≠ 0) :
    ofChars? name = some key := by
  cases h with
  | character c hc =>
    have hnamed : named? [c] = none := named?_eq_none_of_isSystematic rfl
    simp [Keysym.ofChars?, hnamed, alphanumeric?, hc]
  | functionKey n hpos hle =>
    have hdigits : (Nat.toDigits 10 n).all Char.isDigit = true :=
      List.all_eq_true.2 fun c hc => Nat.isDigit_of_mem_toDigits (by decide) (by decide) hc
    have hnamed : named? ('F' :: Nat.toDigits 10 n) = none :=
      named?_eq_none_of_isSystematic (by simp [isSystematic, hdigits])
    have halpha : alphanumeric? ('F' :: Nat.toDigits 10 n) = none := by
      simp [alphanumeric?]
    have hread : unsigned? 10 (2 ^ (32 : Nat)) (Nat.toDigits 10 n) = some n :=
      unsigned?_of_natural? (natural?_toDigits (by decide) (by decide) n) (by omega)
    have hkey : functionKey? ('F' :: Nat.toDigits 10 n) =
        some (UInt32.ofNat (firstFunctionKey + n - 1)) := by
      rw [functionKey?, if_neg (head?_toDigits_ne_zero (by decide) hpos), hread]
      exact if_pos ⟨hpos, hle⟩
    rw [Keysym.ofChars?, hnamed, halpha, hkey]
    rfl
  | listed entry hmem =>
    rw [Keysym.ofChars?, named?_of_mem hmem]
    rfl
  | raw code =>
    have hnamed : named? ('0' :: 'x' :: Nat.toDigits 16 code.toNat) = none :=
      named?_eq_none_of_isSystematic rfl
    have halpha : alphanumeric? ('0' :: 'x' :: Nat.toDigits 16 code.toNat) = none := rfl
    have hfunction : functionKey? ('0' :: 'x' :: Nat.toDigits 16 code.toNat) = none := rfl
    have hread : unsigned? 16 (2 ^ (32 : Nat)) (Nat.toDigits 16 code.toNat) = some code.toNat :=
      unsigned?_of_natural? (natural?_toDigits (by decide) (by decide) _) code.toNat_lt
    have hne : code.toNat ≠ 0 := fun he => hcode (UInt32.toNat_inj.1 he)
    have hkey : raw? ('0' :: 'x' :: Nat.toDigits 16 code.toNat) = some code := by
      rw [raw?, hread]
      simp [hne]
    rw [Keysym.ofChars?, hnamed, halpha, hfunction, hkey]
    rfl

/-! ## Names stand for numbers other than zero -/

theorem ne_zero_of_named? {code : UInt32} (h : named? name = some code) : code ≠ 0 := by
  have htable : ∀ entry ∈ names, entry.2 ≠ 0 := by decide +kernel
  obtain ⟨entry, hfind, rfl⟩ := Option.map_eq_some_iff.1 h
  exact htable entry (List.mem_of_find?_eq_some hfind)

theorem ne_zero_of_alphanumeric? {code : UInt32} (h : alphanumeric? name = some code) :
    code ≠ 0 := by
  unfold alphanumeric? at h
  split at h
  · next c =>
    split at h
    · next hc =>
      rintro rfl
      obtain rfl : c = Char.ofNat 0 := Char.ext (Option.some.inj h)
      exact absurd hc (by decide)
    · cases h
  · cases h

/-- A number below the bound stays what it is as a code. -/
private theorem code_ofNat_ne_zero {n : Nat} (hne : n ≠ 0) (hlt : n < 2 ^ (32 : Nat)) :
    UInt32.ofNat n ≠ 0 := by
  intro h
  have hmod : n % 2 ^ (32 : Nat) = 0 := by simpa using congrArg UInt32.toNat h
  rw [Nat.mod_eq_of_lt hlt] at hmod
  exact hne hmod

theorem ne_zero_of_functionKey? {code : UInt32} (h : functionKey? name = some code) :
    code ≠ 0 := by
  unfold functionKey? at h
  split at h
  · split at h
    · cases h
    · split at h
      · next n _ =>
        split at h
        · have hfirst : firstFunctionKey = 0xffbe := rfl
          obtain rfl := Option.some.inj h
          exact code_ofNat_ne_zero (by omega) (by omega)
        · cases h
      · cases h
  · cases h

theorem ne_zero_of_raw? {code : UInt32} (h : raw? name = some code) : code ≠ 0 := by
  unfold raw? at h
  split at h
  · split at h
    · next n hread =>
      split at h
      · cases h
      · next hne =>
        obtain rfl := Option.some.inj h
        exact code_ofNat_ne_zero hne (lt_of_unsigned?_eq_some hread)
    · cases h
  · cases h

theorem ne_zero_of_codePoint? {code : UInt32} (h : codePoint? name = some code) : code ≠ 0 := by
  unfold codePoint? at h
  split at h
  · split at h
    · cases h
    · obtain ⟨n, -, hcode⟩ := Option.bind_eq_some_iff.1 h
      unfold ofCodePoint? at hcode
      split at hcode
      · obtain rfl := Option.some.inj hcode
        exact code_ofNat_ne_zero (by omega) (by omega)
      · split at hcode
        · obtain rfl := Option.some.inj hcode
          exact code_ofNat_ne_zero (by omega) (by omega)
        · cases hcode
  · cases h

/-- No name stands for the number zero. -/
theorem code_ne_zero_of_ofChars? (h : Keysym.ofChars? name = some key) : key.code ≠ 0 := by
  obtain ⟨code, hcode, rfl⟩ := Option.map_eq_some_iff.1 h
  simp only [Option.or_eq_some_iff] at hcode
  rcases hcode with ((h | ⟨-, h⟩) | ⟨-, h⟩) | ⟨-, h | ⟨-, h⟩⟩
  · exact ne_zero_of_named? h
  · exact ne_zero_of_alphanumeric? h
  · exact ne_zero_of_functionKey? h
  · exact ne_zero_of_raw? h
  · exact ne_zero_of_codePoint? h

end TilingConfig.Binding.Keysym
