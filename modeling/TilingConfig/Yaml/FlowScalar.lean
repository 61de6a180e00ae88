import TilingConfig.Text.Numeral
import TilingConfig.Yaml.Token

/-!
# Plain and quoted scalars

Scalars that are written in the flow of the text. They may run over several
lines, which are folded. A plain scalar ends where something else could start; a
quoted one ends at its quote.
-/

namespace TilingConfig.Yaml

open TilingConfig.Text

/-- A plain scalar that is being read. -/
structure PlainState where
  /-- The text so far, last character first. -/
  text : List Char
  /-- The white space since then. -/
  gap : Gap
  /-- Where the reading stands. -/
  mark : Mark
  /-- What follows the text so far. -/
  stop : Mark

/-- Whether a plain scalar goes no further than the white space before `text`: the text is indented
too little, starts a document or is a comment. -/
def endsPlain (flow : Bool) (indent : Int) (state : PlainState) (text : List Char) : Bool :=
  !state.gap.isEmpty &&
    ((!flow && decide ((state.mark.column : Int) < indent)) ||
      (state.mark.column == 0 && isDocumentIndicator text) || text.head? == some '#')

/-- The characters that end a plain scalar inside brackets. -/
def isFlowIndicator (c : Char) : Bool := c == ',' || c == '[' || c == ']' || c == '{' || c == '}'

/-- Read a plain scalar and the white space behind it. Lines have to be indented by `indent`. -/
def readPlain (flow : Bool) (indent : Int) :
    PlainState → List Char → Except Fault (PlainState × List Char)
  | state, [] => .ok (state, [])
  | state, '\r' :: '\n' :: rest =>
    readPlain flow indent
      { state with gap := state.gap.addBreak '\n', mark := state.mark.nextLine ['\r', '\n'] } rest
  | state, c :: rest =>
    if isBreak c then
      readPlain flow indent
        { state with gap := state.gap.addBreak (keptBreak c), mark := state.mark.nextLine [c] } rest
    else if isGap c then
      if c == '\t' && state.gap.folded && decide ((state.mark.column : Int) < indent) then
        .error (.at "found a tab character that violates indentation" state.mark)
      else
        readPlain flow indent
          { state with gap := state.gap.addSpace c, mark := state.mark.advance [c] } rest
    else if endsPlain flow indent state (c :: rest) then .ok (state, c :: rest)
    else if flow && c == ':' && rest.head?.any fun d => isFlowIndicator d || d == '?' then
      .error (.at "found unexpected ':'" state.mark)
    else if (c == ':' && atGap rest) || (flow && isFlowIndicator c) then .ok (state, c :: rest)
    else
      let mark := state.mark.advance [c]
      readPlain flow indent ⟨c :: (state.gap.folding ++ state.text), .empty, mark, mark⟩ rest

/-- The digits of an escaped code point that are still to come. -/
structure HexEscape where
  /-- How many digits are to come. -/
  left : Nat
  /-- The value of the digits so far. -/
  value : Nat
  /-- The first digit. -/
  start : Mark

/-- A quoted scalar that is being read. -/
structure QuotedState where
  /-- The text so far, last character first. -/
  text : List Char
  /-- The white space since then. -/
  gap : Gap
  /-- Where the reading stands. -/
  mark : Mark
  /-- The escaped code point that is being read. -/
  escape : Option HexEscape

namespace QuotedState

/-- The white space counts as text. -/
def settled (state : QuotedState) : List Char := state.gap.folding ++ state.text

/-- One more character of text, and how it is written. -/
def add (state : QuotedState) (c : Char) (written : List Char) : QuotedState :=
  ⟨c :: state.settled, .empty, state.mark.advance written, none⟩

/-- One more digit of an escaped code point. -/
def addDigit (state : QuotedState) (escape : HexEscape) (c : Char) : Except Fault QuotedState :=
  match digitValue? 16 c with
  | none => .error (.at "did not find expected hexadecimal number" escape.start)
  | some digit =>
    let value := escape.value * 16 + digit
    if 1 < escape.left then
      .ok { state with
        mark := state.mark.advance [c]
        escape := some ⟨escape.left - 1, value, escape.start⟩ }
    else if h : value.isValidChar then .ok (state.add (Char.ofNatAux value h) [c])
    else .error (.at "found invalid Unicode character escape code" escape.start)

/-- A line break, and how it is written. -/
def addBreak (state : QuotedState) (c : Char) (written : List Char) : QuotedState :=
  { state with gap := state.gap.addBreak c, mark := state.mark.nextLine written }

/-- A line break behind a backslash. -/
def escapeBreak (state : QuotedState) (written : List Char) : QuotedState :=
  ⟨state.settled, .escaped, (state.mark.advance ['\\']).nextLine written, none⟩

end QuotedState

/-- The character that an escape of one letter stands for. -/
def simpleEscape? : Char → Option Char
  | '0' => some '\x00'
  | 'a' => some '\x07'
  | 'b' => some '\x08'
  | 't' => some '\t'
  | '\t' => some '\t'
  | 'n' => some '\n'
  | 'v' => some '\x0b'
  | 'f' => some '\x0c'
  | 'r' => some '\r'
  | 'e' => some '\x1b'
  | ' ' => some ' '
  | '"' => some '"'
  | '/' => some '/'
  | '\\' => some '\\'
  | 'N' => some '\u0085'
  | '_' => some '\u00a0'
  | 'L' => some '\u2028'
  | 'P' => some '\u2029'
  | _ => none

/-- How many digits follow an escape of this letter. -/
def hexEscape? : Char → Option Nat
  | 'x' => some 2
  | 'u' => some 4
  | 'U' => some 8
  | _ => none

/-- Read a quoted scalar behind its first quote, with the quote at its end. -/
def readQuoted (single : Bool) :
    QuotedState → List Char → Except Fault (QuotedState × List Char)
  | state, [] =>
    match state.escape with
    | some escape => .error (.at "did not find expected hexadecimal number" escape.start)
    | none => .error (.at "found unexpected end of stream" state.mark)
  | state, '\r' :: '\n' :: rest =>
    match state.escape with
    | some escape => .error (.at "did not find expected hexadecimal number" escape.start)
    | none => readQuoted single (state.addBreak '\n' ['\r', '\n']) rest
  | state, c :: rest =>
    match state.escape with
    | some escape =>
      match state.addDigit escape c with
      | .error fault => .error fault
      | .ok state => readQuoted single state rest
    | none =>
      if isBreak c then readQuoted single (state.addBreak (keptBreak c) [c]) rest
      else if isGap c then
        readQuoted single
          { state with gap := state.gap.addSpace c, mark := state.mark.advance [c] } rest
      else if state.mark.column == 0 && isDocumentIndicator (c :: rest) then
        .error (.at "found unexpected document indicator" state.mark)
      else if single then
        if c == '\'' then
          match rest with
          | '\'' :: rest => readQuoted single (state.add '\'' ['\'', '\'']) rest
          | _ => .ok (⟨state.settled, .empty, state.mark.advance [c], none⟩, rest)
        else readQuoted single (state.add c [c]) rest
      else if c == '"' then .ok (⟨state.settled, .empty, state.mark.advance [c], none⟩, rest)
      else if c == '\\' then
        match rest with
        | '\r' :: '\n' :: rest => readQuoted single (state.escapeBreak ['\r', '\n']) rest
        | e :: rest =>
          if isBreak e then readQuoted single (state.escapeBreak [e]) rest
          else match simpleEscape? e, hexEscape? e with
            | some meant, _ => readQuoted single (state.add meant [c, e]) rest
            | none, some digits =>
              let mark := state.mark.advance [c, e]
              readQuoted single ⟨state.settled, .empty, mark, some ⟨digits, 0, mark⟩⟩ rest
            | none, none => .error (.at "found unknown escape character" state.mark)
        | [] => .error (.at "found unknown escape character" state.mark)
      else readQuoted single (state.add c [c]) rest

/-- The quoted scalar at the cursor. -/
def Cursor.quoted (cursor : Cursor) (single : Bool) : Except Fault (Token × Cursor) :=
  let start := cursor.skip 1
  match readQuoted single ⟨[], .empty, start.mark, none⟩ start.rest with
  | .error fault => .error fault
  | .ok (state, rest) =>
    .ok (⟨.scalar state.text.reverse false, cursor.mark, state.mark⟩, ⟨rest, state.mark⟩)

/-- The plain scalar at the cursor, and whether a line was left behind it. -/
def Cursor.plain (cursor : Cursor) (flow : Bool) (indent : Int) :
    Except Fault (Token × Cursor × Bool) :=
  match readPlain flow indent ⟨[], .empty, cursor.mark, cursor.mark⟩ cursor.rest with
  | .error fault => .error fault
  | .ok (state, rest) =>
    .ok (⟨.scalar state.text.reverse true, cursor.mark, state.stop⟩, ⟨rest, state.mark⟩,
      state.gap.folded)

end TilingConfig.Yaml
