import TilingConfig.Yaml.TokenStream

/-!
# The events of a document

A document is a walk through a tree: scalars, and the starts and ends of
collections. The walk is driven by a stack of goals; the goal on top and the next
token tell what comes next. Where a token is missing, an empty scalar stands.
-/

namespace TilingConfig.Yaml

/-- What may stand before a node. -/
structure Properties where
  /-- A name under which the node can be repeated. -/
  anchor : Option (List Char)
  /-- Its tag, with the handle replaced by what it stands for. -/
  tag : Option Octets
  deriving DecidableEq, Repr

/-- Nothing stands before the node. -/
def Properties.none : Properties := ⟨.none, .none⟩

/-- A step of the walk. -/
inductive EventKind where
  | alias (name : List Char)
  | scalar (properties : Properties) (text : List Char) (plain : Bool)
  | sequenceStart (properties : Properties)
  | sequenceEnd
  | mappingStart (properties : Properties)
  | mappingEnd
  deriving DecidableEq, Repr

/-- A step of the walk and where it is in the text. -/
structure Event where
  /-- What it is. -/
  kind : EventKind
  /-- Where it starts. -/
  mark : Mark
  deriving DecidableEq, Repr

/-- The events of the first document of a text. -/
structure EventStream where
  /-- The events, up to the end of the document or to a fault behind the last of them. -/
  events : List Event
  /-- The fault behind them. -/
  fault : Option Fault
  /-- Whether the text ends with the document. -/
  single : Bool

/-- What a part of the text has to be. -/
inductive Goal where
  /-- The node of a document behind `---`. -/
  | content
  /-- A node. Inside brackets no block collection is one; behind a key a sequence needs no
  indentation. -/
  | node (block indentless : Bool)
  /-- An element of a block sequence, or its end. -/
  | blockEntry
  /-- An element of a block sequence without indentation, or its end. -/
  | indentlessEntry
  /-- A key of a block mapping, or its end. -/
  | blockKey
  /-- The value of a block mapping behind its key. -/
  | blockValue
  /-- An element of a flow sequence, or its end. -/
  | flowEntry (first : Bool)
  /-- The key of a single pair in a flow sequence. -/
  | pairKey
  /-- The value of a single pair. -/
  | pairValue
  /-- The end of a single pair. -/
  | pairEnd
  /-- A key of a flow mapping, or its end. -/
  | flowKey (first : Bool)
  /-- The value of a flow mapping behind its key. -/
  | flowValue
  /-- The missing value behind a key of a flow mapping that has no key sign. -/
  | noValue
  deriving DecidableEq, Repr

/-- What a goal comes to: an event, further goals, and the tokens behind. -/
structure Outcome where
  /-- The event, if there is one. -/
  event : Option Event
  /-- The goals to reach next, first one first. -/
  goals : List Goal
  /-- The tokens that are left. -/
  rest : List Token

/-- The handles of the tags of a document and what they stand for. -/
abbrev TagTable := List (List Char × Octets)

/-- The text of a tag in ASCII. -/
def tagOctets (text : String) : Octets := text.toList.map Char.toUInt8

/-- The handles that every document has. -/
def TagTable.standard : TagTable :=
  [(['!'], tagOctets "!"), (['!', '!'], tagOctets "tag:yaml.org,2002:")]

/-- The tag of a handle and a suffix. -/
def TagTable.resolve (table : TagTable) (handle : List Char) (suffix : Octets) (mark : Mark) :
    Except Fault Octets :=
  if handle.isEmpty then .ok suffix
  else match table.find? fun entry => entry.1 == handle with
    | some (_, stem) => .ok (stem ++ suffix)
    | none => .error (.at "found undefined tag handle" mark)

/-- The anchor before a node, and the handle, suffix and place of its tag, in either order, and what
follows them. -/
def splitProperties :
    List Token → Option (List Char) × Option (List Char × Octets × Mark) × List Token
  | ⟨.anchor name, _, _⟩ :: ⟨.tag handle suffix, mark, _⟩ :: rest
  | ⟨.tag handle suffix, mark, _⟩ :: ⟨.anchor name, _, _⟩ :: rest =>
    (some name, some (handle, suffix, mark), rest)
  | ⟨.anchor name, _, _⟩ :: rest => (some name, none, rest)
  | ⟨.tag handle suffix, mark, _⟩ :: rest => (none, some (handle, suffix, mark), rest)
  | rest => (none, none, rest)

/-- The properties with the handle of the tag resolved. -/
def TagTable.properties (table : TagTable) (anchor : Option (List Char)) :
    Option (List Char × Octets × Mark) → Except Fault Properties
  | none => .ok ⟨anchor, none⟩
  | some (handle, suffix, mark) =>
    (table.resolve handle suffix mark).map fun tag => ⟨anchor, some tag⟩

/-- The fault of a text whose tokens have run out. -/
def endFault (fault : Option Fault) : Fault :=
  fault.getD ⟨"found unexpected end of stream", none⟩

/-- A node. -/
def Goal.readNode (table : TagTable) (fault : Option Fault) (block indentless : Bool) :
    List Token → Except Fault Outcome
  | [] => .error (endFault fault)
  | ⟨.alias name, mark, _⟩ :: rest => .ok ⟨some ⟨.alias name, mark⟩, [], rest⟩
  | first :: tokens =>
    let emit (kind : EventKind) (goals : List Goal) (rest : List Token) : Except Fault Outcome :=
      .ok ⟨some ⟨kind, first.start⟩, goals, rest⟩
    match splitProperties (first :: tokens) with
    | (_, _, []) => .error (endFault fault)
    | (anchor, tag, token :: rest) => do
      let properties ← table.properties anchor tag
      match token.kind, block, indentless with
      | .blockEntry, _, true => emit (.sequenceStart properties) [.indentlessEntry] (token :: rest)
      | .scalar text plain, _, _ => emit (.scalar properties text plain) [] rest
      | .flowSequenceStart, _, _ => emit (.sequenceStart properties) [.flowEntry true] rest
      | .flowMappingStart, _, _ => emit (.mappingStart properties) [.flowKey true] rest
      | .blockSequenceStart, true, _ => emit (.sequenceStart properties) [.blockEntry] rest
      | .blockMappingStart, true, _ => emit (.mappingStart properties) [.blockKey] rest
      | _, _, _ =>
        if properties = .none then
          .error (.at "did not find expected node content" token.start)
        else emit (.scalar properties [] true) [] (token :: rest)

/-- An empty scalar. -/
def emptyScalar (mark : Mark) (goals : List Goal) (rest : List Token) : Outcome :=
  ⟨some ⟨.scalar .none [] true, mark⟩, goals, rest⟩

/-- A node before the further goals, or an empty scalar at `mark` if the next token is one of
`stops`. -/
def nodeUnless (fault : Option Fault) (stops : List TokenKind) (node : Goal) (mark : Mark)
    (goals : List Goal) : List Token → Except Fault Outcome
  | [] => .error (endFault fault)
  | token :: rest =>
    .ok (if stops.contains token.kind then emptyScalar mark goals (token :: rest)
      else ⟨none, node :: goals, token :: rest⟩)

/-- The comma before an element inside brackets, unless it is the first. -/
def skipComma (fault : Option Fault) (first : Bool) (close : TokenKind) (problem : String) :
    List Token → Except Fault (Token × List Token)
  | [] => .error (endFault fault)
  | token :: rest =>
    if token.kind = close || first then .ok (token, rest)
    else if token.kind = .flowEntry then
      match rest with
      | [] => .error (endFault fault)
      | token :: rest => .ok (token, rest)
    else .error (.at problem token.start)

/-- An element of a flow sequence, a single pair, or the end of the sequence. -/
def Goal.readFlowEntry (fault : Option Fault) (first : Bool) (tokens : List Token) :
    Except Fault Outcome := do
  let (token, rest) ←
    skipComma fault first .flowSequenceEnd "did not find expected ',' or ']'" tokens
  match token.kind with
  | .flowSequenceEnd => .ok ⟨some ⟨.sequenceEnd, token.start⟩, [], rest⟩
  | .key => .ok ⟨some ⟨.mappingStart .none, token.start⟩, [.pairKey, .flowEntry false], rest⟩
  | _ => .ok ⟨none, [.node false false, .flowEntry false], token :: rest⟩

/-- A key of a flow mapping, or the end of the mapping. -/
def Goal.readFlowKey (fault : Option Fault) (first : Bool) (tokens : List Token) :
    Except Fault Outcome := do
  let (token, rest) ←
    skipComma fault first .flowMappingEnd "did not find expected ',' or '\x7d'" tokens
  match token.kind, rest with
  | .flowMappingEnd, rest => .ok ⟨some ⟨.mappingEnd, token.start⟩, [], rest⟩
  | .key, next :: rest =>
    nodeUnless fault [.value, .flowEntry, .flowMappingEnd] (.node false false) next.start
      [.flowValue, .flowKey false] (next :: rest)
  | .key, [] => .error (endFault fault)
  | _, rest => .ok ⟨none, [.node false false, .noValue, .flowKey false], token :: rest⟩

/-- The value behind a key inside brackets: a node behind a colon, or an empty scalar. -/
def readFlowValue (fault : Option Fault) (stops : List TokenKind) (goals : List Goal)
    (token : Token) (rest : List Token) : Except Fault Outcome :=
  if token.kind = .value then
    match rest with
    | [] => .error (endFault fault)
    | next :: rest => nodeUnless fault stops (.node false false) next.start goals (next :: rest)
  else .ok (emptyScalar token.start goals (token :: rest))

/-- Reach a goal with the tokens that are left. -/
def Goal.reach (table : TagTable) (fault : Option Fault) (goal : Goal) :
    List Token → Except Fault Outcome
  | [] => .error (endFault fault)
  | token :: rest =>
    match goal with
    | .node block indentless => readNode table fault block indentless (token :: rest)
    | .content =>
      match token.kind with
      | .versionDirective .. | .tagDirective .. | .documentStart | .documentEnd | .streamEnd =>
        .ok (emptyScalar token.start [] (token :: rest))
      | _ => .ok ⟨none, [.node true false], token :: rest⟩
    | .blockEntry =>
      match token.kind with
      | .blockEntry =>
        nodeUnless fault [.blockEntry, .blockEnd] (.node true false) token.stop [.blockEntry] rest
      | .blockEnd => .ok ⟨some ⟨.sequenceEnd, token.start⟩, [], rest⟩
      | _ => .error (.at "did not find expected '-' indicator" token.start)
    | .indentlessEntry =>
      match token.kind with
      | .blockEntry =>
        nodeUnless fault [.blockEntry, .key, .value, .blockEnd] (.node true false) token.stop
          [.indentlessEntry] rest
      | _ => .ok ⟨some ⟨.sequenceEnd, token.start⟩, [], token :: rest⟩
    | .blockKey =>
      match token.kind with
      | .key =>
        nodeUnless fault [.key, .value, .blockEnd] (.node true true) token.stop
          [.blockValue, .blockKey] rest
      | .blockEnd => .ok ⟨some ⟨.mappingEnd, token.start⟩, [], rest⟩
      | _ => .error (.at "did not find expected key" token.start)
    | .blockValue =>
      match token.kind with
      | .value =>
        nodeUnless fault [.key, .value, .blockEnd] (.node true true) token.stop [] rest
      | _ => .ok (emptyScalar token.start [] (token :: rest))
    | .flowEntry first => readFlowEntry fault first (token :: rest)
    | .pairKey =>
      match token.kind with
      | .value | .flowEntry | .flowSequenceEnd =>
        .ok (emptyScalar token.stop [.pairValue, .pairEnd] rest)
      | _ => .ok ⟨none, [.node false false, .pairValue, .pairEnd], token :: rest⟩
    | .pairValue => readFlowValue fault [.flowEntry, .flowSequenceEnd] [] token rest
    | .pairEnd => .ok ⟨some ⟨.mappingEnd, token.start⟩, [], token :: rest⟩
    | .flowKey first => readFlowKey fault first (token :: rest)
    | .flowValue => readFlowValue fault [.flowEntry, .flowMappingEnd] [] token rest
    | .noValue => .ok (emptyScalar token.start [] (token :: rest))

/-- Reach all goals, in at most as many steps as there is fuel: the events on the way, last one
first, and the tokens that are left or the fault that shows. -/
def reachAll (table : TagTable) (fault : Option Fault) :
    Nat → List Goal → List Event → List Token → List Event × Except Fault (List Token)
  | 0, _, events, _ => (events, .error (endFault fault))
  | _ + 1, [], events, tokens => (events, .ok tokens)
  | fuel + 1, goal :: goals, events, tokens =>
    match goal.reach table fault tokens with
    | .error found => (events, .error found)
    | .ok outcome =>
      reachAll table fault fuel (outcome.goals ++ goals) (outcome.event.toList ++ events)
        outcome.rest

/-- A bound on the steps for so many tokens: between two tokens that are taken there are no more
than six steps that take none. -/
def stepBound (tokens : List Token) : Nat := 8 * tokens.length + 16

/-- Read the directives before a document. -/
def readDirectives : Bool → TagTable → List Token → Except Fault (TagTable × List Token)
  | versioned, table, ⟨.versionDirective major minor, mark, _⟩ :: rest =>
    if versioned then .error (.at "found duplicate %YAML directive" mark)
    else if major ≠ 1 || (minor ≠ 1 && minor ≠ 2) then
      .error (.at "found incompatible YAML document" mark)
    else readDirectives true table rest
  | versioned, table, ⟨.tagDirective handle stem, mark, _⟩ :: rest =>
    if table.any fun entry => entry.1 == handle then
      .error (.at "found duplicate %TAG directive" mark)
    else readDirectives versioned (table ++ [(handle, stem)]) rest
  | _, table, tokens => .ok (table, tokens)

/-- Whether nothing but the end of the text follows a document. -/
def endsStream (tokens : List Token) : Bool :=
  (tokens.dropWhile fun token => token.kind == .documentEnd).head?.any fun token =>
    token.kind == .streamEnd

/-- The events of a document that starts with the given goal. -/
def EventStream.ofGoal (table : TagTable) (goal : Goal) (tokens : List Token)
    (fault : Option Fault) : EventStream :=
  match reachAll table fault (stepBound tokens) [goal] [] tokens with
  | (events, .error found) => ⟨events.reverse, some found, false⟩
  | (events, .ok rest) =>
    ⟨events.reverse, if rest.isEmpty then some (endFault fault) else none, endsStream rest⟩

/-- The events of the first document. A text without a document is an empty one. -/
def EventStream.ofTokens (stream : TokenStream) : EventStream :=
  match stream.tokens with
  | [] => ⟨[], some (endFault stream.fault), false⟩
  | ⟨.streamEnd, mark, _⟩ :: _ => ⟨[⟨.scalar .none [] true, mark⟩], none, true⟩
  | token :: rest =>
    match token.kind with
    | .versionDirective .. | .tagDirective .. | .documentStart =>
      match readDirectives false [] (token :: rest) with
      | .error found => ⟨[], some found, false⟩
      | .ok (_, []) => ⟨[], some (endFault stream.fault), false⟩
      | .ok (table, ⟨.documentStart, _, _⟩ :: rest) =>
        .ofGoal (table ++ .standard) .content rest stream.fault
      | .ok (_, other :: _) =>
        ⟨[], some (.at "did not find expected <document start>" other.start), false⟩
    | _ => .ofGoal .standard (.node true false) (token :: rest) stream.fault

end TilingConfig.Yaml
