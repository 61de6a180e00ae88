import Mathlib.Data.List.Induction
import Mathlib.Tactic.IntervalCases
import TilingConfig.Text.Blank
import TilingConfig.Text.Numeral

/-!
# Numerals that are read back

The digits of a number, in a base up to sixteen, are read as that number. A numeral has
digits only, and a digit is neither a sign nor a blank. Which texts are numerals, and of
which numbers, is told by a relation that follows the digits from left to right.
-/

namespace TilingConfig.Text

/-- The character of a digit has the value of that digit. -/
theorem digitValue?_digitChar {base d : Nat} (hbase : base ≤ 16) (hd : d < base) :
    digitValue? base d.digitChar = some d := by
  have h16 : d < 16 := by omega
  simp only [digitValue?]
  interval_cases d <;> exact if_pos hd

/-- A run of digits is read from left to right. -/
theorem foldDigits?_append (base acc : Nat) (xs ys : List Char) :
    foldDigits? base acc (xs ++ ys) = (foldDigits? base acc xs).bind (foldDigits? base · ys) := by
  induction xs generalizing acc with
  | nil => rfl
  | cons c xs ih =>
    rw [List.cons_append, foldDigits?, foldDigits?]
    cases digitValue? base c with
    | none => rfl
    | some value => exact ih _

theorem foldDigits?_toDigits {base : Nat} (hbase : 1 < base) (hmax : base ≤ 16) (n : Nat) :
    foldDigits? base 0 (Nat.toDigits base n) = some n := by
  induction n using Nat.strongRecOn with
  | ind n ih =>
    rw [Nat.toDigits_eq_if hbase]
    split
    · next hlt => simp [foldDigits?, digitValue?_digitChar hmax hlt]
    · next hge =>
      have hsmaller : n / base < n := Nat.div_lt_self (by omega) hbase
      have hdigit : n % base < base := Nat.mod_lt n (by omega)
      rw [foldDigits?_append, ih _ hsmaller]
      simp only [Option.bind_some, foldDigits?, digitValue?_digitChar hmax hdigit]
      rw [Nat.mul_comm, Nat.div_add_mod]

/-- The digits of a number are read as that number. -/
theorem natural?_toDigits {base : Nat} (hbase : 1 < base) (hmax : base ≤ 16) (n : Nat) :
    natural? base (Nat.toDigits base n) = some n := by
  have hfull : (Nat.toDigits base n).isEmpty = false := by simp
  rw [natural?, hfull]
  exact foldDigits?_toDigits hbase hmax n

/-- The digits of a positive number do not start with a zero. -/
theorem head?_toDigits_ne_zero {base n : Nat} (hbase : 1 < base) (hn : 0 < n) :
    (Nat.toDigits base n).head? ≠ some '0' := by
  induction n using Nat.strongRecOn with
  | ind n ih =>
    rw [Nat.toDigits_eq_if hbase]
    split
    · intro h
      have hzero : n = 0 := by simpa using h
      omega
    · next hge =>
      have hpos : 0 < n / base := Nat.div_pos (by omega) (by omega)
      have hrest := ih (n / base) (Nat.div_lt_self hn hbase) hpos
      obtain ⟨first, others, hcons⟩ :=
        List.exists_cons_of_ne_nil (Nat.toDigits_ne_nil (n := n / base))
      rw [hcons] at hrest ⊢
      exact hrest

/-- A run of digits has digits only. -/
theorem isSome_digitValue?_of_foldDigits? {base acc n : Nat} {cs : List Char}
    (h : foldDigits? base acc cs = some n) : ∀ c ∈ cs, (digitValue? base c).isSome = true := by
  induction cs generalizing acc with
  | nil => exact List.forall_mem_nil _
  | cons c cs ih =>
    rw [foldDigits?] at h
    cases hc : digitValue? base c with
    | none => simp [hc] at h
    | some value =>
      rw [hc] at h
      exact List.forall_mem_cons.2 ⟨by rw [hc, Option.isSome_some], ih h⟩

theorem isSome_digitValue?_of_natural? {base n : Nat} {cs : List Char}
    (h : natural? base cs = some n) : ∀ c ∈ cs, (digitValue? base c).isSome = true := by
  unfold natural? at h
  split at h
  · cases h
  · exact isSome_digitValue?_of_foldDigits? h

/-- Without a sign and below the bound, a numeral is an unsigned number. -/
theorem unsigned?_of_natural? {base bound n : Nat} {cs : List Char}
    (h : natural? base cs = some n) (hn : n < bound) : unsigned? base bound cs = some n := by
  have hdigits := isSome_digitValue?_of_natural? h
  unfold unsigned?
  split
  · have hplus : digitValue? base '+' = none := by simp [digitValue?]
    have hsome := hdigits '+' List.mem_cons_self
    rw [hplus] at hsome
    cases hsome
  · simp [h, hn]

/-- An unsigned number is below its bound. -/
theorem lt_of_unsigned?_eq_some {base bound n : Nat} {cs : List Char}
    (h : unsigned? base bound cs = some n) : n < bound := by
  simpa using (Option.filter_eq_some_iff.1 h).2

/-- The letters and digits of ASCII are three ranges. -/
theorem isAlphanum_iff (c : Char) : c.isAlphanum = true ↔
    ('A' ≤ c ∧ c ≤ 'Z' ∨ 'a' ≤ c ∧ c ≤ 'z') ∨ '0' ≤ c ∧ c ≤ '9' := by
  change ((decide ('A' ≤ c ∧ c ≤ 'Z') || decide ('a' ≤ c) && decide (c ≤ 'z')) ||
    decide ('0' ≤ c) && decide (c ≤ '9')) = true ↔ _
  simp only [Bool.or_eq_true, Bool.and_eq_true, decide_eq_true_eq]

/-- Every digit is an ASCII letter or digit. -/
theorem isAlphanum_of_digitValue? {base : Nat} {c : Char}
    (h : (digitValue? base c).isSome = true) : c.isAlphanum = true := by
  rw [isAlphanum_iff]
  simp only [digitValue?] at h
  split at h
  · next hdigit => exact Or.inr hdigit
  · split at h
    · next hlower => exact Or.inl (Or.inr hlower)
    · split at h
      · next hupper => exact Or.inl (Or.inl hupper)
      · simp at h

/-- No ASCII letter or digit is blank. -/
theorem isBlank_eq_false_of_isAlphanum {c : Char} (h : c.isAlphanum = true) :
    isBlank c = false := by
  rw [isAlphanum_iff] at h
  simp only [isBlank, Bool.or_eq_false_iff, Bool.and_eq_false_iff, decide_eq_false_iff_not,
    beq_eq_false_iff_ne, ne_eq, Char.ext_iff, ← UInt32.toNat_inj]
  simp only [Char.le_def, UInt32.le_iff_toNat_le, Char.reduceVal, UInt32.reduceToNat] at *
  omega

/-! ## Numerals as they are written -/

/-- The characters are digits in a base and spell a number; letters stand for ten and up in either
case. -/
inductive Spells (base : Nat) : List Char → Nat → Prop
  | nil : Spells base [] 0
  | snoc {cs : List Char} {n d : Nat} {c : Char} (front : Spells base cs n) (digit : d < base)
      (char : c = d.digitChar ∨ c = d.digitChar.toUpper) : Spells base (cs ++ [c]) (n * base + d)

/-- The digits are three runs of characters. -/
theorem toNat_digitChar {d : Nat} (hd : d < 16) :
    (d < 10 → d.digitChar.toNat = 48 + d) ∧
      (10 ≤ d → d.digitChar.toNat = 87 + d ∧ d.digitChar.toUpper.toNat = 55 + d) := by
  interval_cases d <;> decide

/-- A digit of either case has its value, and no other character has one. -/
theorem digitValue?_eq_some_iff {base d : Nat} (hbase : base ≤ 16) (c : Char) :
    digitValue? base c = some d ↔ d < base ∧ (c = d.digitChar ∨ c = d.digitChar.toUpper) := by
  constructor
  · intro h
    simp only [digitValue?, Option.ite_none_right_eq_some, Option.some.injEq] at h
    obtain ⟨hlt, hd⟩ := h
    rw [hd] at hlt
    obtain ⟨hdecimal, hletter⟩ := toNat_digitChar (hlt.trans_le hbase)
    refine ⟨hlt, ?_⟩
    simp only [Char.le_def, UInt32.le_iff_toNat_le, Char.reduceVal, UInt32.reduceToNat,
      Char.reduceToNat] at hd
    have hcode : c.val.toNat = c.toNat := rfl
    simp only [← Char.toNat_inj]
    -- A value below the base comes from one of the three runs.
    split at hd
    · omega
    · split at hd
      · omega
      · split at hd <;> omega
  · rintro ⟨hd, rfl | rfl⟩
    · exact digitValue?_digitChar hbase hd
    · have h16 : d < 16 := by omega
      simp only [digitValue?]
      interval_cases d <;> exact if_pos hd

/-- A run of digits is read as the number that it spells. -/
theorem foldDigits?_eq_some_iff {base : Nat} (hbase : base ≤ 16) {cs : List Char} {n : Nat} :
    foldDigits? base 0 cs = some n ↔ Spells base cs n := by
  constructor
  · intro h
    induction cs using List.reverseRecOn generalizing n with
    | nil =>
      obtain rfl : 0 = n := Option.some.inj h
      exact .nil
    | append_singleton cs c ih =>
      rw [foldDigits?_append] at h
      obtain ⟨front, hfront, hlast⟩ := Option.bind_eq_some_iff.1 h
      rw [foldDigits?] at hlast
      cases hc : digitValue? base c with
      | none => simp [hc] at hlast
      | some d =>
        obtain ⟨hd, hchar⟩ := (digitValue?_eq_some_iff hbase c).1 hc
        obtain rfl : front * base + d = n := by simpa [hc, foldDigits?] using hlast
        exact .snoc (ih hfront) hd hchar
  · intro h
    induction h with
    | nil => rfl
    | snoc _ hd hchar ih =>
      have hc := (digitValue?_eq_some_iff hbase _).2 ⟨hd, hchar⟩
      rw [foldDigits?_append, ih, Option.bind_some, foldDigits?, hc]
      rfl

/-- Only zero is spelled without a digit. -/
theorem Spells.ne_nil {base : Nat} {cs : List Char} {n : Nat} (h : Spells base cs n) (hn : n ≠ 0) :
    cs ≠ [] := by
  rintro rfl
  generalize hcs : ([] : List Char) = digits at h
  cases h with
  | nil => exact hn rfl
  | snoc => simp at hcs

theorem natural?_eq_some_iff {base : Nat} (hbase : base ≤ 16) {cs : List Char} {n : Nat} :
    natural? base cs = some n ↔ cs ≠ [] ∧ Spells base cs n := by
  rw [natural?, ← foldDigits?_eq_some_iff hbase]
  cases cs <;> simp

/-- A positive number is read from the digits that spell it. -/
theorem natural?_eq_some_iff_of_pos {base : Nat} (hbase : base ≤ 16) {cs : List Char} {n : Nat}
    (hn : n ≠ 0) : natural? base cs = some n ↔ Spells base cs n := by
  rw [natural?_eq_some_iff hbase]
  exact and_iff_right_of_imp fun h => h.ne_nil hn

/-- The digits that spell a number are letters and digits of ASCII. -/
theorem Spells.isAlphanum {base : Nat} (hbase : base ≤ 16) {cs : List Char} {n : Nat}
    (h : Spells base cs n) : ∀ c ∈ cs, c.isAlphanum = true := fun c hc =>
  isAlphanum_of_digitValue?
    (isSome_digitValue?_of_foldDigits? ((foldDigits?_eq_some_iff hbase).2 h) c hc)

/-- A positive unsigned number is below its bound and has a plus sign in front or none. -/
theorem unsigned?_eq_some_iff_of_pos {base bound : Nat} (hbase : base ≤ 16) {cs : List Char}
    {n : Nat} (hn : n ≠ 0) :
    unsigned? base bound cs = some n ↔
      n < bound ∧ ∃ digits, (cs = digits ∨ cs = '+' :: digits) ∧ Spells base digits n := by
  have hunsigned (digits : List Char) : (natural? base digits).filter (· < bound) = some n ↔
      n < bound ∧ Spells base digits n := by
    rw [Option.filter_eq_some_iff, natural?_eq_some_iff_of_pos hbase hn, decide_eq_true_eq,
      and_comm]
  unfold unsigned?
  split
  · next rest =>
    rw [hunsigned]
    refine and_congr_right fun _ => ⟨fun h => ⟨rest, Or.inr rfl, h⟩, ?_⟩
    rintro ⟨digits, rfl | hdigits, hspells⟩
    · exact absurd (hspells.isAlphanum hbase '+' List.mem_cons_self) (by decide)
    · obtain rfl := (List.cons.inj hdigits).2
      exact hspells
  · next hplus =>
    rw [hunsigned]
    refine and_congr_right fun _ => ⟨fun h => ⟨cs, Or.inl rfl, h⟩, ?_⟩
    rintro ⟨digits, rfl | hdigits, hspells⟩
    · exact hspells
    · exact absurd hdigits (hplus digits)

end TilingConfig.Text
