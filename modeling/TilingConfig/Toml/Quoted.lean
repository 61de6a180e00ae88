import TilingConfig.Text.Numeral
import TilingConfig.Toml.Statement

/-!
# Quoted texts

What a text between quotes stands for. Literal texts stand for themselves; between
double quotes a backslash escapes characters and, in a long text, the end of a line
with the white space around it. A long text does not count the end of a line right
behind its first quotes.
-/

namespace TilingConfig.Toml

open TilingConfig.Text

/-- The character that an escape of one letter stands for. -/
def simpleEscape? : Char → Option Char
  | 'b' => some '\x08'
  | 'e' => some '\x1b'
  | 'f' => some '\x0c'
  | 'n' => some '\n'
  | 'r' => some '\r'
  | 't' => some '\t'
  | '"' => some '"'
  | '\\' => some '\\'
  | _ => none

/-- How many digits follow an escape of this letter. -/
def hexEscape? : Char → Option Nat
  | 'x' => some 2
  | 'u' => some 4
  | 'U' => some 8
  | _ => none

/-- The character with a code point. -/
def character? (n : Nat) : Option Char :=
  if h : n.isValidChar then some (Char.ofNatAux n h) else none

/-- What the next character of a quoted text belongs to. -/
inductive QuotedState where
  /-- The text itself. -/
  | text
  /-- A backslash before it. -/
  | escape
  /-- An escaped code point with so many digits to come, its value so far, and the bytes before its
  first digit. -/
  | hex (left value start : Nat)
  /-- A carriage return before it, which may be part of an escaped end of a line. -/
  | carriage (escaped : Bool)
  /-- The white space of an escaped end of a line, which may have come. -/
  | trimming (ended : Bool)
  deriving DecidableEq, Repr

namespace QuotedState

/-- Take a character of the text itself, with escapes if `escapes` holds. -/
def takeText (escapes long : Bool) (c : Char) : Except String (Option Char × QuotedState) :=
  if escapes && c == '\\' then .ok (none, .escape)
  else if long && c == '\n' then .ok (some c, .text)
  else if long && c == '\r' then .ok (some c, .carriage false)
  else if isPlainChar c then .ok (some c, .text)
  else .error "invalid string"

/-- Take white space of an escaped end of a line. -/
def takeBlank? (ended : Bool) (c : Char) : Option QuotedState :=
  if isGap c then some (.trimming ended)
  else if c == '\n' then some (.trimming true)
  else if c == '\r' then some (.carriage true)
  else none

/-- Take the character behind a backslash. -/
def takeEscaped (long : Bool) (offset : Nat) (c : Char) :
    Except String (Option Char × QuotedState) :=
  match simpleEscape? c, hexEscape? c, (if long then takeBlank? false c else none) with
  | some meant, _, _ => .ok (some meant, .text)
  | none, some digits, _ => .ok (none, .hex digits 0 (offset + 1))
  | none, none, some state => .ok (none, state)
  | none, none, none => .error "missing escaped value"

/-- Take the next character, which stands behind `offset` bytes: the character that it adds to the
text, if it adds one, and the next state. -/
def take (escapes long : Bool) (offset : Nat) (c : Char) :
    QuotedState → Except Fault (Option Char × QuotedState)
  | text => (takeText escapes long c).mapError (⟨·, offset⟩)
  | escape => (takeEscaped long offset c).mapError (⟨·, offset⟩)
  | hex left value start =>
    match digitValue? 16 c with
    | none => .error ⟨"too few unicode value digits", offset⟩
    | some digit =>
      let value := value * 16 + digit
      if 1 < left then .ok (none, .hex (left - 1) value start)
      else match character? value with
        | some meant => .ok (some meant, .text)
        | none => .error ⟨"invalid code point", start⟩
  | carriage escaped =>
    if c != '\n' then .error ⟨"carriage return must be followed by newline", offset⟩
    else if escaped then .ok (none, .trimming true)
    else .ok (some c, .text)
  | trimming ended =>
    match takeBlank? ended c with
    | some state => .ok (none, state)
    | none =>
      if ended then (takeText escapes long c).mapError (⟨·, offset⟩)
      else .error ⟨"missing escaped value", offset⟩

/-- Whether a quoted text may end here. -/
def isComplete : QuotedState → Bool
  | text | trimming true => true
  | _ => false

end QuotedState

/-- What the inside of a quoted text stands for, which is behind `offset` bytes. -/
def readInside (escapes long : Bool) :
    QuotedState → Nat → List Char → Except Fault (List Char)
  | state, offset, [] => if state.isComplete then .ok [] else .error ⟨"invalid string", offset⟩
  | state, offset, c :: cs =>
    match state.take escapes long offset c with
    | .error fault => .error fault
    | .ok (meant, state) =>
      (readInside escapes long state (offset + c.utf8Size) cs).map (meant.toList ++ ·)

/-- The mark of quotes at both ends. -/
def Quoting.mark : Quoting → List Char
  | literal => ['\'']
  | basic => ['"']
  | longLiteral => ['\'', '\'', '\'']
  | longBasic => ['"', '"', '"']

/-- Whether a quoting has escapes. -/
def Quoting.hasEscapes : Quoting → Bool
  | basic | longBasic => true
  | _ => false

/-- Whether a quoting may go over several lines. -/
def Quoting.isLong : Quoting → Bool
  | longLiteral | longBasic => true
  | _ => false

/-- How many characters the end of a line takes up in front. -/
def lineEndLength : List Char → Nat
  | '\n' :: _ => 1
  | '\r' :: '\n' :: _ => 2
  | _ => 0

/-- What a quoted text stands for. -/
def readQuoted (quoting : Quoting) (text : List Char) (start : Nat) : Except Fault (List Char) :=
  let size := quoting.mark.length
  if text.take size ≠ quoting.mark then .error ⟨"invalid string", start⟩
  else
    let inside := text.drop size
    let skipped := if quoting.isLong then lineEndLength inside else 0
    let inside := inside.drop skipped
    if inside.length < size ∨ inside.drop (inside.length - size) ≠ quoting.mark then
      .error ⟨"invalid string", start + byteCount text⟩
    else
      readInside quoting.hasEscapes quoting.isLong .text (start + size + skipped)
        (inside.take (inside.length - size))

end TilingConfig.Toml
