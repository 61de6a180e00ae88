import TilingConfig.Toml.Token

/-!
# TOML statements

A text is a list of statements: table headers and assignments. Reading them
checks how the tokens stand together; keys and scalars are left as they are
written. A key or a value that is missing stands as an empty one, so that its
fault shows only when it is read; until then the line of a header without a key
may hold anything.
-/

namespace TilingConfig.Toml

/-- Why a text is no TOML, and the bytes before the place where that shows. -/
structure Fault where
  /-- What is wrong. -/
  problem : String
  /-- The bytes before the place. -/
  offset : Nat
  deriving DecidableEq, Repr

/-- A key or a scalar as it is written, with the bytes before it. -/
structure Word where
  /-- How it is quoted, if it is. -/
  quoting : Option Quoting
  /-- All its characters, quotes included. -/
  text : List Char
  /-- The bytes before it. -/
  start : Nat
  deriving DecidableEq, Repr

/-- Whether a word stands for a key that is missing. -/
def Word.isMissingKey (word : Word) : Bool := word.quoting.isNone && word.text.isEmpty

/-- The parts of a dotted key. -/
abbrev KeyPath := List Word

/-- A value as it is written. -/
inductive Written where
  | scalar (word : Word)
  | array (items : List Written)
  | table (entries : List (KeyPath × Written))
  deriving Repr

/-- A statement. -/
inductive Statement where
  /-- The header of a table, or of one more table of an array. -/
  | header (repeated : Bool) (path : KeyPath)
  /-- An assignment. -/
  | assignment (path : KeyPath) (value : Written)
  deriving Repr

/-- How deeply arrays and inline tables may be nested. -/
def maxDepth : Nat := 80

/-- A token that is neither white space nor a comment. -/
def Token.isWord (token : Token) : Bool :=
  token.kind != .gap && token.kind != .comment && token.kind != .newline

/-- The tokens that are left, and how far the whole text goes. -/
structure Rest where
  /-- The tokens. -/
  tokens : List Token
  /-- The bytes of the whole text. -/
  size : Nat
  /-- The bytes up to the end of its last word. -/
  lastWord : Nat

namespace Rest

/-- The bytes before the next token. -/
def offset (rest : Rest) : Nat :=
  match rest.tokens with
  | token :: _ => token.start
  | [] => rest.size

/-- A fault at the next token. -/
def fault {α : Type} (rest : Rest) (problem : String) : Except Fault α :=
  .error ⟨problem, rest.offset⟩

/-- A fault of brackets that are still open at the end of the text. It shows behind the last
word. -/
def unclosed {α : Type} (rest : Rest) (problem : String) : Except Fault α :=
  .error ⟨problem, rest.lastWord⟩

/-- Whether the next token is a sign. -/
def sees (rest : Rest) (c : Char) : Bool :=
  rest.tokens.head?.any fun token => token.kind == .sign c

/-- Behind the next token. -/
def next (rest : Rest) : Rest := { rest with tokens := rest.tokens.drop 1 }

/-- Skip the white space here. -/
def skipGap (rest : Rest) : Rest :=
  { rest with tokens := rest.tokens.dropWhile fun token => token.kind == .gap }

/-- An empty word at the next token. -/
def missing (rest : Rest) (quoting : Option Quoting) : Word := ⟨quoting, [], rest.offset⟩

end Rest

/-- The characters that a comment may hold, and a literal text. -/
def isPlainChar (c : Char) : Bool := c == '\t' || (' ' ≤ c && c != '\x7f')

/-- Check a comment: it holds no control characters. -/
def checkComment (token : Token) : Except Fault Unit :=
  if token.text.all isPlainChar then .ok ()
  else
    .error ⟨"invalid comment character",
      token.start + Text.byteCount (token.text.takeWhile isPlainChar)⟩

/-- Check the end of a line: a carriage return is followed by a line feed. -/
def checkNewline (token : Token) : Except Fault Unit :=
  if token.text = ['\r'] then
    .error ⟨"carriage return must be followed by newline", token.stop⟩
  else .ok ()

/-- Skip white space, comments and ends of lines. -/
def skipLines : List Token → Except Fault (List Token)
  | [] => .ok []
  | token :: rest =>
    match token.kind with
    | .gap => skipLines rest
    | .comment => (checkComment token).bind fun _ => skipLines rest
    | .newline => (checkNewline token).bind fun _ => skipLines rest
    | _ => .ok (token :: rest)

/-- Skip white space, comments and ends of lines. -/
def Rest.skipLines (rest : Rest) : Except Fault Rest :=
  (Toml.skipLines rest.tokens).map fun tokens => { rest with tokens := tokens }

/-- Skip to behind the end of the line, whatever it holds. -/
def dropLine : List Token → Except Fault (List Token)
  | [] => .ok []
  | token :: rest =>
    match token.kind with
    | .comment => (checkComment token).bind fun _ => dropLine rest
    | .newline => (checkNewline token).map fun _ => rest
    | _ => dropLine rest

/-- Skip to behind the end of the line, whatever it holds. -/
def Rest.dropLine (rest : Rest) : Except Fault Rest :=
  (Toml.dropLine rest.tokens).map fun tokens => { rest with tokens := tokens }

/-- Skip to behind the end of the line, which holds nothing more than a comment. -/
def endLine (rest : Rest) : Except Fault Rest :=
  let rest := rest.skipGap
  match rest.tokens with
  | [] => .ok rest
  | token :: _ =>
    match token.kind with
    | .comment => (checkComment token).map fun _ => rest.next
    | .newline => (checkNewline token).map fun _ => rest.next
    | _ => rest.fault "unexpected key or value"

/-- The word of a token that can be a key or a scalar. -/
def Token.word? (token : Token) : Option Word :=
  match token.kind with
  | .quoted quoting => some ⟨some quoting, token.text, token.start⟩
  | .bare => some ⟨none, token.text, token.start⟩
  | _ => none

/-- One part of a key, or an empty word where there is none. -/
def readKey (rest : Rest) : Word × Rest :=
  match rest.tokens.head?.bind Token.word? with
  | some word => (word, rest.next)
  | none => (rest.missing none, rest)

/-- A dotted key of at most as many parts as there is fuel, with the white space around it. -/
def readKeyPath : Nat → Rest → KeyPath × Rest
  | 0, rest => ([], rest)
  | fuel + 1, rest =>
    let (word, rest) := readKey rest.skipGap
    let rest := rest.skipGap
    if rest.sees '.' then
      let (path, rest) := readKeyPath fuel rest.next
      (word :: path, rest)
    else ([word], rest)

/-- A dotted key, with the white space around it. -/
def Rest.keyPath (rest : Rest) : KeyPath × Rest := readKeyPath (rest.tokens.length + 1) rest

/-- The words of a scalar without quotes: dots belong to it, and single gaps between words. -/
def scalarWords : List Token → List Char × List Token
  | [] => ([], [])
  | [token] =>
    if token.kind = .bare || token.kind = .sign '.' then (token.text, []) else ([], [token])
  | token :: next :: rest =>
    if token.kind = .bare || token.kind = .sign '.' ||
        (token.kind = .gap && next.kind = .bare) then
      let (text, behind) := scalarWords (next :: rest)
      (token.text ++ text, behind)
    else ([], token :: next :: rest)

/-- The scalar that starts with the next token. -/
def readScalar (rest : Rest) : Word × Rest :=
  match rest.tokens.head?.bind Token.word? with
  | some ⟨some quoting, text, start⟩ => (⟨some quoting, text, start⟩, rest.next)
  | _ =>
    let (text, behind) := scalarWords rest.tokens
    (⟨none, text, rest.offset⟩, { rest with tokens := behind })

mutual

/-- A value, with `depth` further levels of arrays and inline tables. -/
def readValue : Nat → Nat → Rest → Except Fault (Written × Rest)
  | 0, _, rest => rest.fault "missing value"
  | fuel + 1, depth, rest =>
    match rest.tokens.head?.map Token.kind with
    | none | some .comment | some .newline | some (.sign ',') =>
      .ok (.scalar (rest.missing (some .literal)), rest)
    | some (.sign '[') =>
      if depth = 0 then rest.fault "values are nested too deeply"
      else do
        let (items, behind) ← readItems fuel (depth - 1) false rest.next
        .ok (.array items, behind)
    | some (.sign '{') =>
      if depth = 0 then rest.fault "values are nested too deeply"
      else do
        let (entries, behind) ← readEntries fuel (depth - 1) false rest.next
        .ok (.table entries, behind)
    | some (.sign '=') | some (.sign ']') | some (.sign '}') => rest.fault "missing value"
    | _ =>
      let (word, behind) := readScalar rest
      .ok (.scalar word, behind)

/-- The items of an array up to its end; behind an item a comma comes first. -/
def readItems : Nat → Nat → Bool → Rest → Except Fault (List Written × Rest)
  | 0, _, _, rest => rest.fault "unclosed array"
  | fuel + 1, depth, behindItem, rest => do
    let rest ← rest.skipLines
    if rest.tokens.isEmpty then rest.unclosed "unclosed array"
    else if rest.sees ']' then .ok ([], rest.next)
    else if rest.sees ',' then
      if behindItem then readItems fuel depth false rest.next
      else rest.fault "extra comma in array"
    else if behindItem then rest.fault "missing comma between array elements"
    else
      let (item, behind) ← readValue fuel depth rest
      let (items, behind) ← readItems fuel depth true behind
      .ok (item :: items, behind)

/-- The entries of an inline table up to its end; behind an entry a comma comes first. -/
def readEntries : Nat → Nat → Bool → Rest → Except Fault (List (KeyPath × Written) × Rest)
  | 0, _, _, rest => rest.fault "unclosed inline table"
  | fuel + 1, depth, behindEntry, rest => do
    let rest ← rest.skipLines
    if rest.tokens.isEmpty then rest.unclosed "unclosed inline table"
    else if rest.sees '}' then .ok ([], rest.next)
    else if rest.sees ',' then
      if behindEntry then readEntries fuel depth false rest.next
      else rest.fault "extra comma in inline table"
    else if behindEntry then rest.fault "missing comma between key-value pairs"
    else if rest.sees '[' || rest.sees ']' || rest.sees '{' then
      rest.fault "missing key for inline table element"
    else
      let (path, behind) := rest.keyPath
      let behind ← behind.skipLines
      if behind.tokens.isEmpty then behind.unclosed "unclosed inline table"
      else if !behind.sees '=' then behind.fault "missing assignment between key-value pairs"
      else
        let behind ← behind.next.skipLines
        if behind.tokens.isEmpty then behind.unclosed "unclosed inline table"
        else if behind.sees ',' then behind.fault "extra comma in inline table"
        else
          let (value, behind) ← readValue fuel depth behind
          let (entries, behind) ← readEntries fuel depth true behind
          .ok ((path, value) :: entries, behind)

end

/-- A value, with enough fuel for all tokens. -/
def Rest.value (rest : Rest) : Except Fault (Written × Rest) :=
  readValue (2 * rest.tokens.length + 2) maxDepth rest

/-- A table header behind its first bracket. -/
def readHeader (rest : Rest) : Except Fault (Statement × Rest) := do
  let repeated := rest.sees '['
  let (path, rest) := (if repeated then rest.next else rest).keyPath
  if !rest.sees ']' then
    if path.getLast?.any Word.isMissingKey then
      let rest ← rest.dropLine
      .ok (.header repeated path, rest)
    else rest.fault "unclosed table"
  else
    let rest := rest.next
    if repeated && !rest.sees ']' then rest.fault "unclosed array table"
    else
      let rest ← endLine (if repeated then rest.next else rest)
      .ok (.header repeated path, rest)

/-- An assignment. -/
def readAssignment (rest : Rest) : Except Fault (Statement × Rest) := do
  let (path, rest) := rest.keyPath
  if !rest.sees '=' then rest.fault "key with no value"
  else
    let (value, rest) ← rest.next.skipGap.value
    let rest ← endLine rest
    .ok (.assignment path value, rest)

/-- The statements of a text, at most as many as there is fuel. -/
def readStatements : Nat → Rest → Except Fault (List Statement)
  | 0, _ => .ok []
  | fuel + 1, rest => do
    let rest ← rest.skipLines
    if rest.tokens.isEmpty then .ok []
    else if rest.sees ',' || rest.sees ']' || rest.sees '{' || rest.sees '}' then
      rest.fault "missing key"
    else
      let (statement, rest) ←
        if rest.sees '[' then readHeader rest.next else readAssignment rest
      let statements ← readStatements fuel rest
      .ok (statement :: statements)

/-- The statements of a text. -/
def statements (text : List Char) : Except Fault (List Statement) :=
  let tokens := tokens text
  let lastWord := ((tokens.filter Token.isWord).getLast?.map Token.stop).getD 0
  readStatements (tokens.length + 1) ⟨tokens, Text.byteCount text, lastWord⟩

end TilingConfig.Toml
