import TilingConfig.Yaml.Event
import TilingConfig.Yaml.Scalar

/-!
# From events to trees

The events of a document are walked from the front to build its tree. At an alias
the walk turns to the events of the node that it repeats and comes back. Two
limits keep the tree small: on the depth of collections and on the number of
repeats.
-/

namespace TilingConfig.Yaml

/-- The events of a document, with the repeats resolved. -/
structure Walk where
  /-- The events. -/
  events : Array Event
  /-- The fault behind them. -/
  fault : Option Fault
  /-- For the place of every alias, the place of the node that it repeats. -/
  targets : List (Nat × Nat)
  /-- Whether the text ends with the document. -/
  single : Bool

/-- The anchors of a document. They are numbered by how many different names there are before
them. So an anchor whose name is used again shares its number with the next new name, and of the
nodes with one number the last is repeated. -/
structure Anchors where
  /-- The present number of every name. -/
  numbers : List (List Char × Nat)
  /-- The places of the nodes with a number, last one first. -/
  places : List (Nat × Nat)
  /-- The places of the aliases and the numbers that they repeat. -/
  aliases : List (Nat × Nat)

namespace Anchors

/-- No anchors. -/
def empty : Anchors := ⟨[], [], []⟩

/-- An anchor at a place. -/
def define (anchors : Anchors) (name : List Char) (place : Nat) : Anchors :=
  let number := anchors.numbers.length
  { anchors with
    numbers := (name, number) :: anchors.numbers.filter fun entry => entry.1 != name
    places := (number, place) :: anchors.places }

/-- An alias at a place. -/
def refer? (anchors : Anchors) (name : List Char) (place : Nat) : Option Anchors :=
  (anchors.numbers.lookup name).map fun number =>
    { anchors with aliases := (place, number) :: anchors.aliases }

/-- For the place of every alias, the place of the node that it repeats. -/
def targets (anchors : Anchors) : List (Nat × Nat) :=
  anchors.aliases.filterMap fun (place, number) =>
    (anchors.places.lookup number).map fun target => (place, target)

end Anchors

/-- The anchor of an event. -/
def EventKind.anchor? : EventKind → Option (List Char)
  | .scalar properties _ _ | .sequenceStart properties | .mappingStart properties =>
    properties.anchor
  | _ => none

/-- Note the anchors and aliases of events, the first of which has the given place, up to an alias
that repeats nothing. -/
def noteAnchors : Nat → Anchors → List Event → Anchors × Option (Nat × Fault)
  | _, anchors, [] => (anchors, none)
  | place, anchors, event :: rest =>
    match event.kind with
    | .alias name =>
      match anchors.refer? name place with
      | some anchors => noteAnchors (place + 1) anchors rest
      | none => (anchors, some (place, .at "unknown anchor" event.mark))
    | kind =>
      match kind.anchor? with
      | some name => noteAnchors (place + 1) (anchors.define name place) rest
      | none => noteAnchors (place + 1) anchors rest

/-- The walk along the events of a document. -/
def Walk.ofEvents (stream : EventStream) : Walk :=
  match noteAnchors 0 .empty stream.events with
  | (anchors, none) => ⟨stream.events.toArray, stream.fault, anchors.targets, stream.single⟩
  | (anchors, some (place, fault)) =>
    ⟨(stream.events.take place).toArray, some fault, anchors.targets, false⟩

/-- The name of a tag that starts with an exclamation mark: what follows the mark, or the mark
itself if nothing does. -/
def markedTag? : Octets → Option String
  | [] => none
  | first :: rest =>
    if first ≠ '!'.toUInt8 then none
    else if rest.isEmpty then some "!"
    else String.fromUTF8? ⟨rest.toArray⟩

/-- How deeply collections may be nested. -/
def maxDepth : Nat := 128

/-- How often aliases may be followed for every event. -/
def repeatsPerEvent : Nat := 100

/-- Where a walk stands. -/
structure Standing where
  /-- The place of the next event. -/
  place : Nat
  /-- How many aliases have been followed. -/
  repeats : Nat

/-- Behind the next event. -/
def Standing.next (standing : Standing) : Standing := ⟨standing.place + 1, standing.repeats⟩

namespace Walk

/-- The fault of a walk that has no further event. -/
def endOfWalk (walk : Walk) : Fault := endFault walk.fault

/-- The node of a scalar. -/
def scalarNode (tag : Option Octets) (plain : Bool) (text : List Char) : Except String Node :=
  match tag with
  | none => untaggedNode plain text
  | some octets =>
    if octets.head? = some '!'.toUInt8 then untaggedNode plain text
    else typedNode (String.ofList (octets.map fun octet => Char.ofNat octet.toNat)) text

/-- Put a node under a tag of its own, if it has one. -/
def underTag (tag : Option String) (node : Except Fault (Node × Standing)) :
    Except Fault (Node × Standing) :=
  match tag with
  | none => node
  | some name => node.map fun (node, standing) => (.tagged name node, standing)

mutual

/-- The node at a place, with `depth` further levels of collections. -/
def node (walk : Walk) : Nat → Nat → Standing → Except Fault (Node × Standing)
  | 0, _, _ => .error walk.endOfWalk
  | fuel + 1, depth, standing =>
    match walk.events[standing.place]? with
    | none => .error walk.endOfWalk
    | some ⟨kind, mark⟩ =>
      match kind with
      | .alias _ =>
        let repeats := standing.repeats + 1
        if repeatsPerEvent * walk.events.size < repeats then
          .error ⟨"too many repeated nodes", none⟩
        else match walk.targets.lookup standing.place with
          | none => .error walk.endOfWalk
          | some target =>
            (node walk fuel depth ⟨target, repeats⟩).map fun (node, behind) =>
              (node, ⟨standing.place + 1, behind.repeats⟩)
      | .scalar properties text plain =>
        let name := properties.tag.bind markedTag?
        underTag name <|
          match scalarNode (if name.isSome then none else properties.tag) plain text with
          | .ok node => .ok (node, standing.next)
          | .error problem => .error (.at problem mark)
      | .sequenceStart properties =>
        underTag (properties.tag.bind markedTag?) <|
          match depth with
          | 0 => .error (.at "collections are nested too deeply" mark)
          | depth + 1 =>
            (elements walk fuel depth standing.next).map fun (items, behind) =>
              (.sequence items, behind)
      | .mappingStart properties =>
        underTag (properties.tag.bind markedTag?) <|
          match depth with
          | 0 => .error (.at "collections are nested too deeply" mark)
          | depth + 1 =>
            (entries walk fuel depth mark [] standing.next).map fun (entries, behind) =>
              (.mapping entries, behind)
      | .sequenceEnd | .mappingEnd => .error walk.endOfWalk

/-- The nodes up to the end of a sequence. -/
def elements (walk : Walk) : Nat → Nat → Standing → Except Fault (List Node × Standing)
  | 0, _, _ => .error walk.endOfWalk
  | fuel + 1, depth, standing =>
    match walk.events[standing.place]? with
    | none => .error walk.endOfWalk
    | some ⟨.sequenceEnd, _⟩ => .ok ([], standing.next)
    | some _ => do
      let (item, behind) ← node walk fuel depth standing
      let (items, behind) ← elements walk fuel depth behind
      .ok (item :: items, behind)

/-- The entries up to the end of a mapping that starts at `mark`, behind the entries `done`, last
one first. -/
def entries (walk : Walk) : Nat → Nat → Mark → List (Node × Node) → Standing →
    Except Fault (List (Node × Node) × Standing)
  | 0, _, _, _, _ => .error walk.endOfWalk
  | fuel + 1, depth, mark, done, standing =>
    match walk.events[standing.place]? with
    | none => .error walk.endOfWalk
    | some ⟨.mappingEnd, _⟩ => .ok (done.reverse, standing.next)
    | some _ => do
      let (key, behind) ← node walk fuel depth standing
      if done.any fun entry => key.same entry.1 then .error (.at "duplicate key" mark)
      else
        let (value, behind) ← node walk fuel depth behind
        entries walk fuel depth mark ((key, value) :: done) behind

end

/-- A bound on the nested calls for a tree: along each level of collections there are at most as
many as there are events. -/
def callBound (walk : Walk) : Nat := (maxDepth + 2) * (walk.events.size + 4)

/-- The tree of a document. -/
def root (walk : Walk) : Except Fault Node := do
  let (node, _) ← walk.node walk.callBound maxDepth ⟨0, 0⟩
  match walk.fault with
  | some fault => .error fault
  | none => if walk.single then .ok node else .error ⟨"more than one document", none⟩

end Walk

/-- The tree of a text. -/
def Node.ofChars (text : List Char) : Except Fault Node :=
  (Walk.ofEvents (.ofTokens (.ofChars text))).root

end TilingConfig.Yaml
