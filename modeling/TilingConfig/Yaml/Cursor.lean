import TilingConfig.Text.Position

/-!
# Places in a YAML text

A cursor is the rest of a text and the mark of its first character. Marks count
bytes, lines and columns from zero; a column is one character wide. Five characters
break lines; a carriage return with a line feed is one break.
-/

namespace TilingConfig.Yaml

open TilingConfig.Text

/-- A place in a text. -/
structure Mark where
  /-- The bytes before it. -/
  index : Nat
  /-- The lines before it. -/
  line : Nat
  /-- The characters before it in its line. -/
  column : Nat
  deriving DecidableEq, Repr

namespace Mark

/-- The start of a text. -/
def zero : Mark := ⟨0, 0, 0⟩

/-- Behind some characters of the line. -/
def advance (mark : Mark) (cs : List Char) : Mark :=
  ⟨mark.index + byteCount cs, mark.line, mark.column + cs.length⟩

/-- The start of the next line, behind a break. -/
def nextLine (mark : Mark) (lineBreak : List Char) : Mark :=
  ⟨mark.index + byteCount lineBreak, mark.line + 1, 0⟩

end Mark

/-- Why a text is no YAML, and where that shows. Faults of a whole text have no mark. -/
structure Fault where
  /-- What is wrong. -/
  problem : String
  /-- Where it shows. -/
  mark : Option Mark
  deriving DecidableEq, Repr

/-- A fault at a mark. -/
def Fault.at (problem : String) (mark : Mark) : Fault := ⟨problem, some mark⟩

/-- A space or a tab. -/
def isGap (c : Char) : Bool := c == ' ' || c == '\t'

/-- A character that breaks lines. -/
def isBreak (c : Char) : Bool :=
  c == '\n' || c == '\r' || c == '\u0085' || c == '\u2028' || c == '\u2029'

/-- The form in which a break is kept: a line feed, except for the two Unicode separators. -/
def keptBreak (c : Char) : Char := if c == '\u2028' || c == '\u2029' then c else '\n'

/-- Whether a token ends here: a gap, a break or the end of the text. -/
def atGap : List Char → Bool
  | [] => true
  | c :: _ => isGap c || isBreak c

/-- Whether a line ends here. -/
def atLineEnd : List Char → Bool
  | [] => true
  | c :: _ => isBreak c

/-- A letter, a digit, an underscore or a hyphen. -/
def isWordChar (c : Char) : Bool := c.isAlphanum || c == '_' || c == '-'

/-- Whether a line made of `---` or `...` and a gap starts here. -/
def isDocumentIndicator : List Char → Bool
  | '-' :: '-' :: '-' :: rest => atGap rest
  | '.' :: '.' :: '.' :: rest => atGap rest
  | _ => false

/-- The rest of a text, and its mark. -/
structure Cursor where
  /-- The rest of the text. -/
  rest : List Char
  /-- The mark of its first character. -/
  mark : Mark

namespace Cursor

/-- Skip characters of the line. -/
def skip (cursor : Cursor) (n : Nat) : Cursor :=
  ⟨cursor.rest.drop n, cursor.mark.advance (cursor.rest.take n)⟩

/-- The longest run of characters that satisfy `p`, all in the line, and what follows it. -/
def span (cursor : Cursor) (p : Char → Bool) : List Char × Cursor :=
  let run := cursor.rest.takeWhile p
  (run, cursor.skip run.length)

/-- Skip the gap here. -/
def skipGap (cursor : Cursor) : Cursor := (cursor.span isGap).2

/-- Skip to the end of the line. -/
def skipToLineEnd (cursor : Cursor) : Cursor := (cursor.span fun c => !isBreak c).2

/-- The break here in the form in which it is kept, if there is one, and what follows it. -/
def takeBreak (cursor : Cursor) : Option Char × Cursor :=
  match cursor.rest with
  | '\r' :: '\n' :: rest => (some '\n', ⟨rest, cursor.mark.nextLine ['\r', '\n']⟩)
  | c :: rest =>
    if isBreak c then (some (keptBreak c), ⟨rest, cursor.mark.nextLine [c]⟩) else (none, cursor)
  | [] => (none, cursor)

/-- Whether `c` stands here. -/
def sees (cursor : Cursor) (c : Char) : Bool := cursor.rest.head? == some c

end Cursor

/-- The characters that a text may hold: no control characters but tabs and breaks. -/
def isPermitted (c : Char) : Bool :=
  let n := c.toNat
  n == 0x09 || n == 0x0a || n == 0x0d || (0x20 ≤ n && n ≤ 0x7e) || n == 0x85 ||
    (0xa0 ≤ n && n ≤ 0xfffd) || 0x10000 ≤ n

/-- The white space since the last character of a scalar. Within a line it is kept as it is; line
breaks are folded: one becomes a space, and of several the first is dropped. -/
structure Gap where
  /-- The gap within a line, last character first. -/
  spaces : List Char
  /-- The first line break. -/
  first : Option Char
  /-- The further line breaks, last one first. -/
  more : List Char
  /-- Whether the line has been left. -/
  folded : Bool

namespace Gap

/-- No white space. -/
def empty : Gap := ⟨[], none, [], false⟩

/-- The line is left by an escaped break, which leaves nothing behind. -/
def escaped : Gap := ⟨[], none, [], true⟩

/-- Whether there is no white space. -/
def isEmpty (gap : Gap) : Bool := gap.spaces.isEmpty && !gap.folded

/-- One more space or tab; at the start of a line it does not count. -/
def addSpace (gap : Gap) (c : Char) : Gap :=
  if gap.folded then gap else { gap with spaces := c :: gap.spaces }

/-- One more line break. -/
def addBreak (gap : Gap) (c : Char) : Gap :=
  if gap.folded then { gap with more := c :: gap.more } else ⟨[], some c, [], true⟩

/-- What the white space stands for, last character first. -/
def folding (gap : Gap) : List Char :=
  if !gap.folded then gap.spaces
  else if gap.first = some '\n' then (if gap.more.isEmpty then [' '] else gap.more)
  else gap.more ++ gap.first.toList

end Gap

end TilingConfig.Yaml
