import TilingConfig.Yaml.Token

/-!
# Literal and folded scalars

Scalars that are written as indented lines below a header. The header may give
the indentation and say what becomes of the line breaks at the end; a folded
scalar joins lines that are not indented further.
-/

namespace TilingConfig.Yaml

/-- What becomes of the line breaks at the end of a block scalar. -/
inductive Chomping where
  /-- All are dropped. -/
  | strip
  /-- One is kept. -/
  | clip
  /-- All are kept. -/
  | keep
  deriving DecidableEq, Repr

/-- The chomping sign at the front. -/
def chomping? : List Char → Option Chomping
  | '+' :: _ => some .keep
  | '-' :: _ => some .strip
  | _ => none

/-- The indentation digit at the cursor, if there is one. -/
def Cursor.indentation (cursor : Cursor) : Except Fault (Option Nat × Cursor) :=
  match cursor.rest with
  | '0' :: _ => .error (.at "found an indentation indicator equal to 0" cursor.mark)
  | c :: _ =>
    if c.isDigit then .ok (some (c.toNat - '0'.toNat), cursor.skip 1) else .ok (none, cursor)
  | [] => .ok (none, cursor)

/-- The chomping sign at the cursor, if there is one. -/
def Cursor.chomping (cursor : Cursor) : Option Chomping × Cursor :=
  match chomping? cursor.rest with
  | some chomping => (some chomping, cursor.skip 1)
  | none => (none, cursor)

/-- The header of a block scalar: chomping sign and indentation digit, in either order. -/
def Cursor.blockHeader (cursor : Cursor) : Except Fault (Chomping × Option Nat × Cursor) :=
  match cursor.chomping with
  | (some chomping, cursor) =>
    (cursor.indentation).map fun (indent, cursor) => (chomping, indent, cursor)
  | (none, cursor) =>
    (cursor.indentation).map fun (indent, cursor) =>
      match indent with
      | none => (.clip, none, cursor)
      | some _ =>
        let (chomping, cursor) := cursor.chomping
        (chomping.getD .clip, indent, cursor)

/-- Empty lines between the lines of a block scalar. -/
structure EmptyLines where
  /-- Their breaks, last one first. -/
  breaks : List Char
  /-- The largest indentation among them and the next line. -/
  widest : Nat
  /-- Where the reading stands. -/
  mark : Mark
  /-- What follows the last break. -/
  stop : Mark

/-- Skip indentation, up to `indent` columns when that is known, and empty lines. -/
def readEmptyLines (indent : Option Nat) :
    EmptyLines → List Char → Except Fault (EmptyLines × List Char)
  | lines, [] => .ok ({ lines with widest := max lines.widest lines.mark.column }, [])
  | lines, c :: rest =>
    let inside := indent.all fun n => lines.mark.column < n
    if c == ' ' && inside then
      readEmptyLines indent { lines with mark := lines.mark.advance [c] } rest
    else
      let widest := max lines.widest lines.mark.column
      if c == '\t' && inside then
        .error (.at "found a tab character where an indentation space is expected" lines.mark)
      else if c == '\r' && rest.head? == some '\n' then
        match rest with
        | _ :: rest =>
          let mark := lines.mark.nextLine ['\r', '\n']
          readEmptyLines indent ⟨'\n' :: lines.breaks, widest, mark, mark⟩ rest
        | [] => .ok ({ lines with widest := widest }, c :: rest)
      else if isBreak c then
        let mark := lines.mark.nextLine [c]
        readEmptyLines indent ⟨keptBreak c :: lines.breaks, widest, mark, mark⟩ rest
      else .ok ({ lines with widest := widest }, c :: rest)

/-- The empty lines at the cursor. -/
def Cursor.emptyLines (cursor : Cursor) (indent : Option Nat) :
    Except Fault (EmptyLines × Cursor) :=
  match readEmptyLines indent ⟨[], 0, cursor.mark, cursor.mark⟩ cursor.rest with
  | .error fault => .error fault
  | .ok (lines, rest) => .ok (lines, ⟨rest, lines.mark⟩)

/-- A block scalar that is being read. All texts are kept last character first. -/
structure BlockState where
  /-- The text so far. -/
  text : List Char
  /-- The break of the last line. -/
  lineBreak : Option Char
  /-- The breaks of the empty lines since then. -/
  emptyBreaks : List Char
  /-- Whether the last line starts with a gap. -/
  indented : Bool
  /-- What follows the last break. -/
  stop : Mark

/-- The text with the breaks before the next line. A folded scalar turns a single break between two
lines that do not start with a gap into a space. -/
def BlockState.joined (state : BlockState) (folded nextIndented : Bool) : List Char :=
  let lineBreak :=
    if folded && state.lineBreak == some '\n' && !state.indented && !nextIndented then
      (if state.emptyBreaks.isEmpty then [' '] else [])
    else state.lineBreak.toList
  state.emptyBreaks ++ lineBreak ++ state.text

/-- Read the lines of a block scalar, at most as many as there is fuel. -/
def readBlockLines (folded : Bool) (indent : Nat) :
    Nat → BlockState → Cursor → Except Fault (BlockState × Cursor)
  | 0, state, cursor => .ok (state, cursor)
  | fuel + 1, state, cursor =>
    if cursor.mark.column != indent || cursor.rest.isEmpty then .ok (state, cursor)
    else
      let indented := cursor.rest.head?.any isGap
      let (line, behind) := cursor.span fun c => !isBreak c
      let (lineBreak, behind) := behind.takeBreak
      match behind.emptyLines (some indent) with
      | .error fault => .error fault
      | .ok (lines, behind) =>
        readBlockLines folded indent fuel
          ⟨line.reverse ++ state.joined folded indented, lineBreak, lines.breaks, indented,
            lines.stop⟩ behind

/-- The whole text of a block scalar. -/
def BlockState.chomped (state : BlockState) : Chomping → List Char
  | .strip => state.text.reverse
  | .clip => (state.lineBreak.toList ++ state.text).reverse
  | .keep => (state.emptyBreaks ++ state.lineBreak.toList ++ state.text).reverse

/-- The block scalar at the cursor, inside a block of the given indentation. -/
def Cursor.blockScalar (cursor : Cursor) (folded : Bool) (outer : Int) :
    Except Fault (Token × Cursor) := do
  let (chomping, increment, behind) ← (cursor.skip 1).blockHeader
  let behind := behind.skipGap
  let behind := if behind.sees '#' then behind.skipToLineEnd else behind
  if !atLineEnd behind.rest then
    .error (.at "did not find expected comment or line break" behind.mark)
  else
    let behind := behind.takeBreak.2
    let known := increment.map fun n => (max outer 0).toNat + n
    let (lines, behind) ← behind.emptyLines known
    let indent := known.getD (max lines.widest (max (outer + 1) 1).toNat)
    let (state, behind) ← readBlockLines folded indent (behind.rest.length + 1)
      ⟨[], none, lines.breaks, false, lines.stop⟩ behind
    .ok (⟨.scalar (state.chomped chomping) false, cursor.mark, state.stop⟩, behind)

end TilingConfig.Yaml
