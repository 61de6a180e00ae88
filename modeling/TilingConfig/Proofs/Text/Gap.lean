import Mathlib.Data.List.TakeWhile
import TilingConfig.Text.Blank

/-!
# Gaps and words

A gap is a text of blanks only, an inked text has none. Trimming takes off exactly the
gap at its end of a text, and whatever stands in front of a blank is found again by
reading up to that blank.
-/

namespace TilingConfig.Text

/-- A text of blanks only. -/
def IsGap (cs : List Char) : Prop := ∀ c ∈ cs, isBlank c = true

/-- A text without blanks. -/
def IsInk (cs : List Char) : Prop := ∀ c ∈ cs, isBlank c = false

/-- A text that does not start with a blank. -/
def IsFlush (cs : List Char) : Prop := ∀ c ∈ cs.head?, isBlank c = false

/-- The empty text is a gap. -/
theorem isGap_nil : IsGap [] := List.forall_mem_nil _

/-- So is a space. -/
theorem isGap_space : IsGap [' '] := List.forall_mem_singleton.2 (by decide)

/-- Both parts of an inked text are inked. -/
theorem IsInk.of_append {xs ys : List Char} (h : IsInk (xs ++ ys)) : IsInk xs ∧ IsInk ys :=
  ⟨fun c hc => h c (List.mem_append_left ys hc), fun c hc => h c (List.mem_append_right xs hc)⟩

/-- An inked text starts with no blank, whatever follows it. -/
theorem IsInk.isFlush_append {xs : List Char} (h : IsInk xs) (hne : xs ≠ []) (ys : List Char) :
    IsFlush (xs ++ ys) := by
  obtain ⟨x, xs, rfl⟩ := List.exists_cons_of_ne_nil hne
  intro c hc
  have he : x = c := by simpa using hc
  exact he ▸ h x (List.mem_cons_self ..)

/-- A text that is both a gap and inked is empty. -/
theorem IsGap.eq_nil_of_isInk {cs : List Char} (hg : IsGap cs) (hi : IsInk cs) : cs = [] := by
  cases cs with
  | nil => rfl
  | cons c cs =>
    have hb := hg c (List.mem_cons_self ..)
    rw [hi c (List.mem_cons_self ..)] at hb
    cases hb

/-- Trimming the front takes a gap off. -/
theorem trimStart_append_of_isGap {gap : List Char} (h : IsGap gap) (cs : List Char) :
    trimStart (gap ++ cs) = trimStart cs :=
  List.dropWhile_append_of_pos h

/-- Nothing is trimmed from the front of a text that starts with no blank. -/
theorem trimStart_of_isFlush {cs : List Char} (h : IsFlush cs) : trimStart cs = cs := by
  cases cs with
  | nil => rfl
  | cons c cs =>
    have hc : isBlank c = false := h c (by simp)
    exact List.dropWhile_cons_of_neg (by simp [hc])

/-- A gap in front of a text that starts with no blank is exactly what trimming takes off. -/
theorem trimStart_gap_append {gap cs : List Char} (hg : IsGap gap) (hf : IsFlush cs) :
    trimStart (gap ++ cs) = cs := by
  rw [trimStart_append_of_isGap hg, trimStart_of_isFlush hf]

/-- A trimmed gap is empty. -/
theorem trimStart_of_isGap {gap : List Char} (h : IsGap gap) : trimStart gap = [] := by
  have hnil : IsFlush [] := by simp [IsFlush]
  simpa using trimStart_gap_append h hnil

/-- A trimmed text starts with no blank. -/
theorem isFlush_trimStart (cs : List Char) : IsFlush (trimStart cs) := by
  intro c hc
  have h := List.head?_dropWhile_not isBlank cs
  rw [show (cs.dropWhile isBlank).head? = some c from hc] at h
  simpa using h

/-- What trimming takes off the front is a gap. -/
theorem exists_gap_append_trimStart (cs : List Char) :
    ∃ gap, IsGap gap ∧ cs = gap ++ trimStart cs :=
  ⟨cs.takeWhile isBlank, fun _ hc => List.mem_takeWhile_imp hc,
    List.takeWhile_append_dropWhile.symm⟩

/-- A text that is trimmed to nothing is a gap. -/
theorem isGap_of_trimStart_eq_nil {cs : List Char} (h : trimStart cs = []) : IsGap cs :=
  List.dropWhile_eq_nil_iff.1 h

/-- What trimming takes off the back is a gap. -/
theorem exists_trimEnd_append_gap (cs : List Char) :
    ∃ gap, IsGap gap ∧ cs = trimEnd cs ++ gap := by
  obtain ⟨gap, hg, he⟩ := exists_gap_append_trimStart cs.reverse
  refine ⟨gap.reverse, fun c hc => hg c (List.mem_reverse.1 hc), ?_⟩
  have hr := congrArg List.reverse he
  rwa [List.reverse_reverse, List.reverse_append] at hr

/-- Trimming the back of an inked text with a gap behind it gives the inked text. -/
theorem trimEnd_append_of_isGap {cs gap : List Char} (hi : IsInk cs) (hg : IsGap gap) :
    trimEnd (cs ++ gap) = cs := by
  have hr : IsGap gap.reverse := fun c hc => hg c (List.mem_reverse.1 hc)
  have hf : IsFlush cs.reverse := fun c hc =>
    hi c (List.mem_reverse.1 (List.mem_of_mem_head? hc))
  have h := trimStart_gap_append hr hf
  rw [trimEnd, List.reverse_append]
  rw [trimStart] at h
  rw [h, List.reverse_reverse]

/-- A text is cut into an inked part and a gap behind it in one way only. -/
theorem isInk_append_gap_inj {cs ds gap other : List Char} (hc : IsInk cs) (hd : IsInk ds)
    (hg : IsGap gap) (ho : IsGap other) (h : cs ++ gap = ds ++ other) : cs = ds := by
  rw [← trimEnd_append_of_isGap hc hg, h, trimEnd_append_of_isGap hd ho]

/-- Reading stops in front of the first character that does not belong. -/
theorem takeWhile_append_of_head? {p : Char → Bool} {cs behind : List Char}
    (hp : ∀ c ∈ cs, p c = true) (hb : ∀ c ∈ behind.head?, p c = false) :
    (cs ++ behind).takeWhile p = cs := by
  rw [List.takeWhile_append_of_pos hp]
  cases behind with
  | nil => simp
  | cons c behind =>
    have hc : p c = false := hb c (by simp)
    rw [List.takeWhile_cons_of_neg (by simp [hc]), List.append_nil]

/-- Every text is inked up to its first blank. -/
theorem exists_isInk_append (cs : List Char) :
    ∃ name behind, cs = name ++ behind ∧ IsInk name ∧ ∀ c ∈ behind.head?, isBlank c = true := by
  refine ⟨cs.takeWhile (!isBlank ·), cs.dropWhile (!isBlank ·),
    List.takeWhile_append_dropWhile.symm, ?_, ?_⟩
  · intro c hc
    simpa using List.mem_takeWhile_imp hc
  · intro c hc
    have h := List.head?_dropWhile_not (!isBlank ·) cs
    rw [Option.mem_def.1 hc] at h
    simpa using h

/-- A gap starts with a blank or is empty. -/
theorem IsGap.head? {gap : List Char} (h : IsGap gap) : ∀ c ∈ gap.head?, isBlank c = true :=
  fun c hc => h c (List.mem_of_mem_head? hc)

end TilingConfig.Text
