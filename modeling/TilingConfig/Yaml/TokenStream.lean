import TilingConfig.Yaml.BlockScalar
import TilingConfig.Yaml.FlowScalar
import TilingConfig.Yaml.Property

/-!
# The tokens of a text

A text is cut into tokens from the front. Two things make this more than a walk:
columns open and close block collections, and only the colon behind a key shows
that it is one. Where a key could start, the place is remembered, and the tokens
from there on are held back until the colon has come or can no longer come.
-/

namespace TilingConfig.Yaml

/-- The tokens of a text, up to the end of the text or to a fault behind the last of them. -/
structure TokenStream where
  /-- The tokens. -/
  tokens : List Token
  /-- The fault behind them. -/
  fault : Option Fault

/-- A place where a key without a sign of its own could start. -/
structure KeyStart where
  /-- Whether a block mapping goes on here, so that nothing but a key fits. -/
  required : Bool
  /-- The number of tokens before it. -/
  number : Nat
  /-- Its first character. -/
  mark : Mark

/-- How far behind its start a key may end, in bytes. -/
def maxKeyLength : Nat := 1024

/-- Whether a key that starts there can no longer end at `mark`. -/
def KeyStart.isStale (key : KeyStart) (mark : Mark) : Bool :=
  key.mark.line < mark.line || key.mark.index + maxKeyLength < mark.index

/-- A text that is being cut into tokens. -/
structure Lexer where
  /-- What is left of the text. -/
  cursor : Cursor
  /-- The column of the block collection around the cursor; −1 outside of all. -/
  indent : Int
  /-- The columns of the collections around that one, innermost first. -/
  outer : List Int
  /-- Whether a key may start at the cursor. -/
  keyAllowed : Bool
  /-- Where a key could have started at the present level of brackets. -/
  key : Option KeyStart
  /-- The same for the levels around it, innermost first. -/
  outerKeys : List (Option KeyStart)
  /-- How many tokens have been let go. -/
  released : Nat
  /-- The tokens that are held back. -/
  held : List Token

namespace Lexer

/-- The lexer at the start of a text. -/
def start (text : List Char) : Lexer := ⟨⟨text, .zero⟩, -1, [], true, none, [], 0, []⟩

/-- Whether the cursor is inside brackets. -/
def inFlow (lexer : Lexer) : Bool := !lexer.outerKeys.isEmpty

/-- The column of the cursor. -/
def column (lexer : Lexer) : Int := lexer.cursor.mark.column

/-- Hold one more token back. -/
def emit (lexer : Lexer) (token : Token) : Lexer := { lexer with held := lexer.held ++ [token] }

/-- A token of `n` characters at the cursor. -/
def emitSign (lexer : Lexer) (kind : TokenKind) (n : Nat) : Lexer :=
  let behind := lexer.cursor.skip n
  { lexer.emit ⟨kind, lexer.cursor.mark, behind.mark⟩ with cursor := behind }

/-- Put a token without extent before the token of the given number. -/
def insert (lexer : Lexer) (number : Nat) (kind : TokenKind) (mark : Mark) : Lexer :=
  let place := number - lexer.released
  { lexer with held := lexer.held.take place ++ ⟨kind, mark, mark⟩ :: lexer.held.drop place }

/-- Open a block collection at a mark, before the token of the given number, unless one is open at
that column. -/
def openBlock (lexer : Lexer) (kind : TokenKind) (number : Nat) (mark : Mark) : Lexer :=
  if !lexer.inFlow && decide (lexer.indent < (mark.column : Int)) then
    { lexer.insert number kind mark with
      indent := mark.column, outer := lexer.indent :: lexer.outer }
  else lexer

/-- The number of the next token. -/
def next (lexer : Lexer) : Nat := lexer.released + lexer.held.length

/-- How many of the open columns lie behind `column`, and the columns that stay open. -/
def closedColumns (column : Int) : Int → List Int → Nat × Int × List Int
  | indent, [] => (0, indent, [])
  | indent, outer :: rest =>
    if column < indent then
      let (closed, stay) := closedColumns column outer rest
      (closed + 1, stay)
    else (0, indent, outer :: rest)

/-- Close the block collections behind a column. -/
def closeBlocks (lexer : Lexer) (column : Int) : Lexer :=
  if lexer.inFlow then lexer
  else
    let (closed, indent, outer) := closedColumns column lexer.indent lexer.outer
    let mark := lexer.cursor.mark
    { lexer with
      indent := indent
      outer := outer
      held := lexer.held ++ List.replicate closed ⟨.blockEnd, mark, mark⟩ }

/-- The place where a key could start is given up. -/
def dropKey (lexer : Lexer) : Except Fault Lexer :=
  if lexer.key.any KeyStart.required then
    .error (.at "could not find expected ':'" lexer.cursor.mark)
  else .ok { lexer with key := none }

/-- A key could start at the cursor. -/
def noteKey (lexer : Lexer) : Except Fault Lexer :=
  if lexer.keyAllowed then
    (lexer.dropKey).map fun lexer =>
      let required := !lexer.inFlow && lexer.indent == lexer.column
      { lexer with key := some ⟨required, lexer.next, lexer.cursor.mark⟩ }
  else .ok lexer

/-- Give up the places from which a key can no longer end at `mark`. -/
def dropStale (mark : Mark) : List (Option KeyStart) → Except Fault (List (Option KeyStart))
  | [] => .ok []
  | none :: rest => (dropStale mark rest).map (none :: ·)
  | some key :: rest =>
    if key.isStale mark then
      if key.required then .error (.at "could not find expected ':'" mark)
      else (dropStale mark rest).map (none :: ·)
    else (dropStale mark rest).map (some key :: ·)

/-- Give up all places from which a key can no longer end at the cursor. -/
def dropStaleKeys (lexer : Lexer) : Except Fault Lexer := do
  let keys ← dropStale lexer.cursor.mark (lexer.key :: lexer.outerKeys)
  .ok { lexer with key := keys.headD none, outerKeys := keys.drop 1 }

/-- Let go the tokens that come before every place where a key could have started. -/
def release (lexer : Lexer) : List Token × Lexer :=
  let bound := (lexer.key :: lexer.outerKeys).foldl (fun bound key =>
    match key with
    | some key => min bound key.number
    | none => bound) lexer.next
  let count := bound - lexer.released
  (lexer.held.take count, { lexer with released := bound, held := lexer.held.drop count })

/-- Skip white space and comments. A tab is white space only where no key may start. -/
def skipBlanks (flow : Bool) : Bool → Mark → List Char → Bool × Mark × List Char
  | allowed, mark, [] => (allowed, mark, [])
  | allowed, mark, '\r' :: '\n' :: rest =>
    skipBlanks flow (allowed || !flow) (mark.nextLine ['\r', '\n']) rest
  | allowed, mark, c :: rest =>
    if isBreak c then skipBlanks flow (allowed || !flow) (mark.nextLine [c]) rest
    else if c == ' ' || (c == '\t' && (flow || !allowed)) ||
        (c == '\ufeff' && mark.column == 0) then
      skipBlanks flow allowed (mark.advance [c]) rest
    else (allowed, mark, c :: rest)

/-- Skip white space and comments, at most as many comments as there is fuel. -/
def skipComments (flow : Bool) : Nat → Bool → Cursor → Bool × Cursor
  | 0, allowed, cursor => (allowed, cursor)
  | fuel + 1, allowed, cursor =>
    let (allowed, mark, rest) := skipBlanks flow allowed cursor.mark cursor.rest
    let cursor : Cursor := ⟨rest, mark⟩
    if cursor.sees '#' then skipComments flow fuel allowed cursor.skipToLineEnd
    else (allowed, cursor)

/-- Go to the next token. -/
def toToken (lexer : Lexer) : Lexer :=
  let (allowed, cursor) :=
    skipComments lexer.inFlow (lexer.cursor.rest.length + 1) lexer.keyAllowed lexer.cursor
  { lexer with keyAllowed := allowed, cursor := cursor }

/-- The end of the text, which counts as the start of a line. -/
def endStream (lexer : Lexer) : Except Fault Lexer := do
  let mark := lexer.cursor.mark
  let mark := if mark.column = 0 then mark else ⟨mark.index, mark.line + 1, 0⟩
  let lexer ← ({ lexer with cursor := ⟨[], mark⟩ }.closeBlocks (-1)).dropKey
  .ok ({ lexer with keyAllowed := false }.emit ⟨.streamEnd, mark, mark⟩)

/-- The end of all blocks, before a token that stands outside of them. -/
def leaveDocument (lexer : Lexer) : Except Fault Lexer := do
  let lexer ← (lexer.closeBlocks (-1)).dropKey
  .ok { lexer with keyAllowed := false }

/-- An opening bracket. -/
def openFlow (lexer : Lexer) (kind : TokenKind) : Except Fault Lexer := do
  let lexer ← lexer.noteKey
  .ok ({ lexer with
    key := none, outerKeys := lexer.key :: lexer.outerKeys, keyAllowed := true }.emitSign kind 1)

/-- A closing bracket. -/
def closeFlow (lexer : Lexer) (kind : TokenKind) : Except Fault Lexer := do
  let lexer ← lexer.dropKey
  let lexer := match lexer.outerKeys with
    | key :: rest => { lexer with key := key, outerKeys := rest }
    | [] => lexer
  .ok ({ lexer with keyAllowed := false }.emitSign kind 1)

/-- A comma inside brackets. -/
def flowEntry (lexer : Lexer) : Except Fault Lexer := do
  let lexer ← lexer.dropKey
  .ok ({ lexer with keyAllowed := true }.emitSign .flowEntry 1)

/-- A block collection may start or go on at the cursor. -/
def enterBlock (lexer : Lexer) (kind : TokenKind) (problem : String) : Except Fault Lexer :=
  if lexer.inFlow then .ok lexer
  else if !lexer.keyAllowed then .error (.at problem lexer.cursor.mark)
  else .ok (lexer.openBlock kind lexer.next lexer.cursor.mark)

/-- A hyphen before an element. -/
def blockEntry (lexer : Lexer) : Except Fault Lexer := do
  let lexer ← lexer.enterBlock .blockSequenceStart
    "block sequence entries are not allowed in this context"
  let lexer ← lexer.dropKey
  .ok ({ lexer with keyAllowed := true }.emitSign .blockEntry 1)

/-- A question mark before a key. -/
def explicitKey (lexer : Lexer) : Except Fault Lexer := do
  let lexer ← lexer.enterBlock .blockMappingStart "mapping keys are not allowed in this context"
  let lexer ← lexer.dropKey
  .ok ({ lexer with keyAllowed := !lexer.inFlow }.emitSign .key 1)

/-- A colon before a value. It tells that what started at the noted place is a key. -/
def value (lexer : Lexer) : Except Fault Lexer :=
  match lexer.key with
  | some key =>
    let lexer := (lexer.insert key.number .key key.mark).openBlock .blockMappingStart key.number
      key.mark
    .ok ({ lexer with key := none, keyAllowed := false }.emitSign .value 1)
  | none => do
    let lexer ← lexer.enterBlock .blockMappingStart
      "mapping values are not allowed in this context"
    .ok ({ lexer with keyAllowed := !lexer.inFlow }.emitSign .value 1)

/-- A word with which a key may start and behind which none may. -/
def word (lexer : Lexer) (read : Cursor → Except Fault (Token × Cursor)) : Except Fault Lexer := do
  let lexer ← lexer.noteKey
  let (token, behind) ← read lexer.cursor
  .ok ({ lexer with keyAllowed := false, cursor := behind }.emit token)

/-- A plain scalar. A key may start behind it in another line. -/
def plain (lexer : Lexer) : Except Fault Lexer := do
  let lexer ← lexer.noteKey
  let (token, behind, newLine) ← lexer.cursor.plain lexer.inFlow (lexer.indent + 1)
  .ok ({ lexer with keyAllowed := newLine, cursor := behind }.emit token)

/-- A literal or folded scalar, which is never a key. -/
def block (lexer : Lexer) (folded : Bool) : Except Fault Lexer := do
  let lexer ← lexer.dropKey
  let (token, behind) ← lexer.cursor.blockScalar folded lexer.indent
  .ok ({ lexer with keyAllowed := true, cursor := behind }.emit token)

/-- A directive line. -/
def directive (lexer : Lexer) : Except Fault Lexer := do
  let lexer ← lexer.leaveDocument
  let (token, behind) ← lexer.cursor.directive
  .ok ({ lexer with cursor := behind }.emit token)

/-- The signs with which a plain scalar cannot start. -/
def isIndicator (c : Char) : Bool := "-?:,[]\x7b\x7d#&*!|>'\"%@\x60".toList.contains c

/-- Whether a plain scalar starts with `c` before `rest`. -/
def startsPlain (flow : Bool) (c : Char) (rest : List Char) : Bool :=
  !(isIndicator c || isGap c || isBreak c) || (c == '-' && !rest.head?.any isGap) ||
    (!flow && (c == '?' || c == ':') && !atGap rest)

/-- The token at the cursor, which stands at `c` before `rest`. -/
def token (lexer : Lexer) (c : Char) (rest : List Char) : Except Fault Lexer :=
  let flow := lexer.inFlow
  if lexer.cursor.mark.column = 0 && c == '%' then lexer.directive
  else if lexer.cursor.mark.column = 0 && isDocumentIndicator (c :: rest) then
    (lexer.leaveDocument).map fun lexer =>
      lexer.emitSign (if c == '-' then .documentStart else .documentEnd) 3
  else match c with
    | '[' => lexer.openFlow .flowSequenceStart
    | '{' => lexer.openFlow .flowMappingStart
    | ']' => lexer.closeFlow .flowSequenceEnd
    | '}' => lexer.closeFlow .flowMappingEnd
    | ',' => lexer.flowEntry
    | '*' => lexer.word fun cursor => cursor.name .alias
    | '&' => lexer.word fun cursor => cursor.name .anchor
    | '!' => lexer.word fun cursor => cursor.tag flow
    | '\'' => lexer.word fun cursor => cursor.quoted true
    | '"' => lexer.word fun cursor => cursor.quoted false
    | _ =>
      if c == '-' && atGap rest then lexer.blockEntry
      else if c == '?' && (flow || atGap rest) then lexer.explicitKey
      else if c == ':' && (flow || atGap rest) then lexer.value
      else if !flow && (c == '|' || c == '>') then lexer.block (c == '>')
      else if startsPlain flow c rest then lexer.plain
      else .error (.at "found character that cannot start any token" lexer.cursor.mark)

/-- Cut off the next token, with the ends of the blocks that it is outside of. -/
def step (lexer : Lexer) : Except Fault Lexer := do
  let lexer ← lexer.toToken.dropStaleKeys
  let lexer := lexer.closeBlocks lexer.column
  let lexer ← match lexer.cursor.rest with
    | [] => lexer.endStream
    | c :: rest => lexer.token c rest
  lexer.dropStaleKeys

/-- Cut a text into at most as many tokens as there is fuel. Tokens that are held back when a fault
shows are lost with it. -/
def run : Nat → Lexer → List Token → TokenStream
  | 0, _, done => ⟨done.reverse, none⟩
  | fuel + 1, lexer, done =>
    match lexer.step with
    | .error fault => ⟨done.reverse, some fault⟩
    | .ok lexer =>
      let (tokens, lexer) := lexer.release
      let done := tokens.reverse ++ done
      if tokens.getLast?.any (·.kind == .streamEnd) then ⟨done.reverse, none⟩
      else run fuel lexer done

end Lexer

/-- The tokens of a text. A character that no text may hold is a fault of the whole text. -/
def TokenStream.ofChars (text : List Char) : TokenStream :=
  if text.all isPermitted then Lexer.run (text.length + 2) (.start text) []
  else ⟨[], some (.at "control characters are not allowed" .zero)⟩

end TilingConfig.Yaml
