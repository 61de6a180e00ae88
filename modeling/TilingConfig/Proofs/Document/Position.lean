import Mathlib.Data.List.Induction
import Mathlib.Order.RelClasses
import TilingConfig.Document.Load

/-!
# Positions of faults

A place in a text is shown by its line and column. The line tells the line feeds before the
place and the column the characters since the last of them, so that the place is found again
by walking the text. Places that come later have later positions.
-/

namespace TilingConfig.Text

variable {text before lines tail more : List Char}

/-! ## Offsets -/

@[simp] theorem byteCount_nil : byteCount [] = 0 := rfl

@[simp] theorem byteCount_cons (c : Char) (cs : List Char) :
    byteCount (c :: cs) = c.utf8Size + byteCount cs := rfl

@[simp] theorem byteCount_append (xs ys : List Char) :
    byteCount (xs ++ ys) = byteCount xs + byteCount ys := by
  induction xs with
  | nil => simp
  | cons x xs ih => rw [List.cons_append, byteCount_cons, byteCount_cons, ih, Nat.add_assoc]

/-- No character stands across the offset, and it is not behind the text. -/
def IsBoundary (text : List Char) (offset : Nat) : Prop :=
  ∃ before, before <+: text ∧ byteCount before = offset

theorem takeBytes?_byteCount (before rest : List Char) :
    takeBytes? (byteCount before) (before ++ rest) = some before := by
  induction before with
  | nil => rw [byteCount_nil, takeBytes?]
  | cons c cs ih =>
    obtain ⟨size, hsize⟩ : ∃ size, byteCount (c :: cs) = size + 1 :=
      Nat.exists_eq_add_one.2 (Nat.add_pos_left c.utf8Size_pos _)
    rw [hsize, List.cons_append, takeBytes?, ← hsize, byteCount_cons, if_pos (Nat.le_add_right ..),
      Nat.add_sub_cancel_left, ih, Option.map_some]

/-- The position of a boundary is that behind the characters before it. -/
theorem lineColumn_byteCount (h : before <+: text) :
    lineColumn text (byteCount before) = endPosition before := by
  obtain ⟨rest, rfl⟩ := h
  rw [lineColumn, takeBytes?_byteCount, Option.getD_some]

/-- The characters before a later boundary go on from those before an earlier one. -/
theorem exists_append_of_lt {after : List Char} (hbefore : before <+: text)
    (hafter : after <+: text) (hlt : byteCount before < byteCount after) :
    ∃ more, more ≠ [] ∧ after = before ++ more := by
  rcases List.prefix_or_prefix_of_prefix hbefore hafter with ⟨more, rfl⟩ | ⟨more, rfl⟩
  · refine ⟨more, fun hnil => ?_, rfl⟩
    rw [hnil, List.append_nil] at hlt
    exact Nat.lt_irrefl _ hlt
  · rw [byteCount_append] at hlt
    omega

/-! ## Positions -/

/-- The text is one of whole lines: it ends with a line feed if it is not empty. -/
def IsLines (text : List Char) : Prop := text = [] ∨ ∃ front, text = front ++ ['\n']

/-- Every text is a text of whole lines and the start of another line. -/
theorem exists_lines_append (text : List Char) :
    ∃ lines tail, text = lines ++ tail ∧ IsLines lines ∧ '\n' ∉ tail := by
  induction text using List.reverseRecOn with
  | nil => exact ⟨[], [], rfl, Or.inl rfl, List.not_mem_nil⟩
  | append_singleton front c ih =>
    by_cases hc : c = '\n'
    · subst hc
      exact ⟨front ++ ['\n'], [], (List.append_nil _).symm, Or.inr ⟨front, rfl⟩, List.not_mem_nil⟩
    · obtain ⟨lines, tail, rfl, hlines, htail⟩ := ih
      refine ⟨lines, tail ++ [c], List.append_assoc .., hlines, ?_⟩
      simpa [htail] using Ne.symm hc

/-- Characters other than line feeds make the column larger and leave the line. -/
theorem endPosition_append (before : List Char) (hmore : '\n' ∉ more) :
    endPosition (before ++ more) =
      ((endPosition before).1, (endPosition before).2 + more.length) := by
  have hall : ∀ c ∈ more.reverse, (c != '\n') = true := fun c hc =>
    bne_iff_ne.2 fun h => hmore (h ▸ List.mem_reverse.1 hc)
  rw [endPosition, endPosition, List.count_append, List.count_eq_zero_of_not_mem hmore,
    List.reverse_append, List.takeWhile_append_of_pos hall, List.length_append, List.length_reverse]
  exact Prod.ext (by omega) (by omega)

/-- Whole lines end at the first column. -/
theorem endPosition_of_isLines (h : IsLines lines) :
    endPosition lines = (lines.count '\n' + 1, 1) := by
  rcases h with rfl | ⟨front, rfl⟩
  · rfl
  · rw [endPosition, List.reverse_concat, List.takeWhile_cons_of_neg (by decide)]
    rfl

theorem endPosition_lines_append (hlines : IsLines lines) (htail : '\n' ∉ tail) :
    endPosition (lines ++ tail) = (lines.count '\n' + 1, tail.length + 1) := by
  rw [endPosition_append lines htail, endPosition_of_isLines hlines, Nat.add_comm 1]

/-- Going on makes the position larger: by lines, or within the line. -/
theorem endPosition_lt_append (before : List Char) (hmore : more ≠ []) :
    Prod.Lex (· < ·) (· < ·) (endPosition before) (endPosition (before ++ more)) := by
  by_cases hfeed : '\n' ∈ more
  · refine Prod.Lex.left _ _ ?_
    have hcount := List.count_pos_iff.2 hfeed
    rw [List.count_append]
    omega
  · rw [endPosition_append before hfeed]
    refine Prod.Lex.right _ ?_
    exact Nat.lt_add_of_pos_right (List.length_pos_iff.2 hmore)

/-! ## Back to the offset -/

/-- The text up to its line feed of this number. -/
def throughLines? : Nat → List Char → Option (List Char)
  | 0, _ => some []
  | _ + 1, [] => none
  | feeds + 1, c :: cs =>
    (throughLines? (if c = '\n' then feeds else feeds + 1) cs).map (c :: ·)

/-- The bytes on the way to a position: the line feeds before its line are passed first, then the
characters before its column. -/
def offsetOf? (text : List Char) (position : Nat × Nat) : Option Nat :=
  (throughLines? (position.1 - 1) text).bind fun lines =>
    let tail := (text.drop lines.length).take (position.2 - 1)
    if tail.length = position.2 - 1 then some (byteCount (lines ++ tail)) else none

/-- As many line feeds as whole lines have are passed with these lines. -/
theorem throughLines?_count (hlines : IsLines lines) (rest : List Char) :
    throughLines? (lines.count '\n') (lines ++ rest) = some lines := by
  induction lines with
  | nil => rw [List.count_nil, throughLines?]
  | cons c cs ih =>
    have hcs : IsLines cs := by
      rcases hlines with h | ⟨front, hfront⟩
      · cases h
      · rcases List.cons_eq_append_iff.1 hfront with ⟨rfl, h⟩ | ⟨front, rfl, rfl⟩
        · exact Or.inl (List.cons.inj h).2.symm
        · exact Or.inr ⟨front, rfl⟩
    by_cases hc : c = '\n'
    · subst hc
      rw [List.count_cons_self, List.cons_append, throughLines?, if_pos rfl, ih hcs,
        Option.map_some]
    · -- Without a line feed in front the lines are not over, so there is one further on.
      obtain ⟨feeds, hfeeds⟩ : ∃ feeds, cs.count '\n' = feeds + 1 := by
        refine Nat.exists_eq_add_one.2 (List.count_pos_iff.2 ?_)
        rcases hlines with h | ⟨front, hfront⟩
        · cases h
        · have hmem : '\n' ∈ c :: cs := hfront ▸ List.mem_append_right _ List.mem_cons_self
          exact (List.mem_cons.1 hmem).resolve_left (Ne.symm hc)
      rw [List.count_cons_of_ne hc, hfeeds, List.cons_append, throughLines?, if_neg hc, ← hfeeds,
        ih hcs, Option.map_some]

/-- Walking the text to a position leads back to the characters before it. -/
theorem offsetOf?_endPosition (h : before <+: text) :
    offsetOf? text (endPosition before) = some (byteCount before) := by
  obtain ⟨lines, tail, rfl, hlines, htail⟩ := exists_lines_append before
  obtain ⟨rest, rfl⟩ := h
  rw [endPosition_lines_append hlines htail, offsetOf?, Nat.add_sub_cancel, List.append_assoc,
    throughLines?_count hlines]
  simp

end TilingConfig.Text

namespace TilingConfig.Document

open TilingConfig.Text

/-- The position that is shown for a boundary tells the line feeds before it and the characters
since the last of them, and walking as many leads back to it. So the boundaries of a text are in
the order of their positions, and a fault at one of them is found where it is shown. -/
theorem fault_position_determines_offset [Parsers] {text : List Char} {offset : Nat}
    (h : IsBoundary text offset) :
    (∃ lines tail, lines ++ tail <+: text ∧ byteCount (lines ++ tail) = offset ∧
        IsLines lines ∧ '\n' ∉ tail ∧
        lineColumn text offset = ((lines ++ tail).count '\n' + 1, tail.length + 1)) ∧
      offsetOf? text (lineColumn text offset) = some offset ∧
      (∀ other, IsBoundary text other →
        (lineColumn text offset = lineColumn text other ↔ offset = other) ∧
          (Prod.Lex (· < ·) (· < ·) (lineColumn text offset) (lineColumn text other) ↔
            offset < other)) ∧
      ∀ source problem, source.toList = text → Parsers.toml text = .error ⟨problem, offset⟩ →
        ∃ line column, convert .toml source = .failed line column (.malformed problem) ∧
          offsetOf? text (line, column) = some offset := by
  have hwalk : ∀ other, IsBoundary text other →
      offsetOf? text (lineColumn text other) = some other := by
    rintro _ ⟨before, hbefore, rfl⟩
    rw [lineColumn_byteCount hbefore, offsetOf?_endPosition hbefore]
  have hlt : ∀ first second, IsBoundary text first → IsBoundary text second → first < second →
      Prod.Lex (· < ·) (· < ·) (lineColumn text first) (lineColumn text second) := by
    rintro _ _ ⟨before, hbefore, rfl⟩ ⟨after, hafter, rfl⟩ hlt
    obtain ⟨more, hmore, rfl⟩ := exists_append_of_lt hbefore hafter hlt
    rw [lineColumn_byteCount hbefore, lineColumn_byteCount hafter]
    exact endPosition_lt_append before hmore
  refine ⟨?_, hwalk offset h, fun other hother => ⟨⟨fun hsame => ?_, congrArg _⟩,
    ⟨fun hlex => ?_, hlt offset other h hother⟩⟩, ?_⟩
  · obtain ⟨before, hbefore, rfl⟩ := h
    obtain ⟨lines, tail, rfl, hlines, htail⟩ := exists_lines_append before
    refine ⟨lines, tail, hbefore, rfl, hlines, htail, ?_⟩
    rw [lineColumn_byteCount hbefore, endPosition_lines_append hlines htail, List.count_append,
      List.count_eq_zero_of_not_mem htail, Nat.add_zero]
  · have hoffset := hwalk offset h
    rw [hsame, hwalk other hother] at hoffset
    exact (Option.some.inj hoffset).symm
  · rcases Nat.lt_trichotomy offset other with hbefore | rfl | hafter
    · exact hbefore
    · exact absurd hlex (irrefl _)
    · exact absurd hlex (asymm (hlt other offset hother h hafter))
  · rintro source problem rfl hfault
    refine ⟨_, _, ?_, hwalk offset h⟩
    rw [convert]
    simp only [hfault]
    rfl

open scoped Parsers

/-- A value is followed by another one in the second line of a text with characters of two bytes
and two characters at the end of each line. -/
theorem fault_position_determines_offset_second_line :
    let source := "a = 'ü'\r\nb = 'ß' x\n"
    IsBoundary source.toList 19 ∧ IsBoundary source.toList 21 ∧
      lineColumn source.toList 19 = (2, 9) ∧ lineColumn source.toList 21 = (3, 1) ∧
      Toml.readTable source.toList = .error ⟨"unexpected key or value", 19⟩ ∧
      offsetOf? source.toList (2, 9) = some 19 ∧ Prod.Lex (· < ·) (· < ·) (2, 9) (3, 1) ∧
      ∃ line column,
        convert .toml source = .failed line column (.malformed "unexpected key or value") ∧
          offsetOf? source.toList (line, column) = some 19 := by
  intro source
  have h : IsBoundary source.toList 19 := ⟨source.toList.take 17, List.take_prefix .., by decide⟩
  have hend : IsBoundary source.toList 21 := ⟨source.toList, List.prefix_rfl, by decide⟩
  have hposition : lineColumn source.toList 19 = (2, 9) := by decide
  have hposition' : lineColumn source.toList 21 = (3, 1) := by decide
  have hfault : Toml.readTable source.toList = .error ⟨"unexpected key or value", 19⟩ := by
    have hfound : (match Toml.readTable source.toList with
      | .error fault => some fault
      | .ok _ => none) = some ⟨"unexpected key or value", 19⟩ := by decide +kernel
    split at hfound
    · next fault hread => rw [hread, Option.some.inj hfound]
    · cases hfound
  obtain ⟨-, hwalk, horder, hshown⟩ := fault_position_determines_offset h
  have hlater := (horder 21 hend).2.2 (by decide)
  rw [hposition] at hwalk hlater
  rw [hposition'] at hlater
  exact ⟨h, hend, hposition, hposition', hfault, hwalk, hlater, hshown source _ rfl hfault⟩

end TilingConfig.Document
