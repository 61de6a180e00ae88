import TilingConfig.Toml.Scalar

/-!
# Putting tables together

The statements of a text fill one table. How a table came about tells what may
still be added to it: a table with a header of its own gets no second one, dotted
keys add only to tables that dotted keys made, and inline tables and arrays are
complete as they are written.
-/

namespace TilingConfig.Toml

/-- How a table came about. -/
inductive Origin where
  /-- It has a header of its own, or is the whole text. -/
  | header
  /-- A header names a table inside of it. -/
  | implied
  /-- A dotted key names an item inside of it. -/
  | dotted
  deriving DecidableEq, Repr

/-- An item of a table that is being filled. -/
inductive Draft where
  /-- A value, which is complete. -/
  | value (item : Item)
  /-- A table. -/
  | table (origin : Origin) (entries : List (String × Draft))
  /-- An array of tables that have headers of their own. -/
  | tables (elements : List Draft)
  deriving Repr

/-- The entries of a table that is being filled. -/
abbrev Drafts := List (String × Draft)

/-- A part of a key: a name and the bytes before it. -/
structure Key where
  /-- The name. -/
  name : String
  /-- The bytes before it. -/
  start : Nat
  deriving DecidableEq, Repr

/-- A key that is used already. -/
def Key.duplicate {α : Type} (key : Key) : Except Fault α := .error ⟨"duplicate key", key.start⟩

/-- How many parts a dotted key may have. -/
def maxKeyParts : Nat := 80

/-- The parts of a key: those on the way, and the last one. -/
def readPath : KeyPath → Except Fault (List Key × Key)
  | path => do
    let keys ← path.mapM fun word => do
      let name ← word.name
      .ok (Key.mk name word.start)
    match keys.getLast? with
    | none => .error ⟨"missing key", 0⟩
    | some last =>
      if maxKeyParts < keys.length then .error ⟨"keys have too many parts", last.start⟩
      else .ok (keys.dropLast, last)

/-- Put an item in the place of the one with the same name. -/
def replaceItem (entries : Drafts) (name : String) (draft : Draft) : Drafts :=
  entries.map fun entry => if entry.1 = name then (name, draft) else entry

/-- Change the table that a path leads to. Tables that are missing on the way are made; the last
table stands for an array of tables. A path that is `dotted` belongs to an assignment. -/
def changeAt (dotted : Bool) (change : Origin → Drafts → Except Fault Drafts) :
    List Key → Origin → Drafts → Except Fault Drafts
  | [], origin, entries => change origin entries
  | key :: path, _, entries =>
    match entries.lookup key.name with
    | none =>
      let origin := if dotted then .dotted else .implied
      (changeAt dotted change path origin []).map fun inner =>
        entries ++ [(key.name, .table origin inner)]
    | some (.table origin inner) =>
      if dotted && origin = .header then key.duplicate
      else
        (changeAt dotted change path origin inner).map fun inner =>
          replaceItem entries key.name (.table origin inner)
    | some (.tables elements) =>
      match elements.getLast? with
      | some (.table origin inner) =>
        (changeAt dotted change path origin inner).map fun inner =>
          replaceItem entries key.name (.tables (elements.dropLast ++ [.table origin inner]))
      | _ => key.duplicate
    | some (.value _) => .error ⟨"cannot extend a value", key.start⟩

/-- Add an item under a new name to a table. Dotted keys add only to tables that dotted keys made,
and other keys to all other tables. -/
def addItem (dotted : Bool) (key : Key) (draft : Draft) (origin : Origin) (entries : Drafts) :
    Except Fault Drafts :=
  if dotted != (origin == .dotted) || (entries.lookup key.name).isSome then key.duplicate
  else .ok (entries ++ [(key.name, draft)])

/-- Carry out an assignment in a table. -/
def assign (path : List Key) (key : Key) (item : Item) (entries : Drafts) : Except Fault Drafts :=
  let dotted := !path.isEmpty
  changeAt dotted (addItem dotted key (.value item)) path .header entries

mutual

/-- The finished item. -/
def Draft.item : Draft → Item
  | .value item => item
  | .table _ entries => .table (itemsOf entries)
  | .tables elements => .array (elementsOf elements)

/-- The finished entries of a table. -/
def itemsOf : Drafts → List (String × Item)
  | [] => []
  | (name, draft) :: rest => (name, draft.item) :: itemsOf rest

/-- The finished elements of an array. -/
def elementsOf : List Draft → List Item
  | [] => []
  | draft :: rest => draft.item :: elementsOf rest

end

mutual

/-- The item of a value. -/
def Written.item : Written → Except Fault Item
  | .scalar word => word.item
  | .array items => (itemList items).map .array
  | .table entries => (fillTable [] entries).map fun drafts => .table (itemsOf drafts)

/-- The items of several values. -/
def itemList : List Written → Except Fault (List Item)
  | [] => .ok []
  | value :: rest => do
    let item ← value.item
    let items ← itemList rest
    .ok (item :: items)

/-- Carry out assignments in a table. -/
def fillTable (entries : Drafts) : List (KeyPath × Written) → Except Fault Drafts
  | [] => .ok entries
  | (path, value) :: rest => do
    let (path, key) ← readPath path
    let item ← value.item
    let entries ← assign path key item entries
    fillTable entries rest

end

/-- A header and the assignments below it. -/
structure TableSection where
  /-- Whether the header adds one more table to an array. -/
  repeated : Bool
  /-- The key of the header. -/
  path : KeyPath
  /-- The assignments up to the next header. -/
  assignments : List (KeyPath × Written)

/-- The assignments before the first header, and the sections. -/
def splitSections : List Statement → List (KeyPath × Written) × List TableSection
  | [] => ([], [])
  | .assignment path value :: rest =>
    let (front, sections) := splitSections rest
    ((path, value) :: front, sections)
  | .header repeated path :: rest =>
    let (front, sections) := splitSections rest
    ([], ⟨repeated, path, front⟩ :: sections)

/-- Give a table a header, and fill it. A table that was only implied before comes to stand behind
the others. -/
def openTable (key : Key) (fill : Drafts → Except Fault Drafts) (entries : Drafts) :
    Except Fault Drafts :=
  match entries.lookup key.name with
  | none => (fill []).map fun inner => entries ++ [(key.name, .table .header inner)]
  | some (.table .implied inner) =>
    (fill inner).map fun inner =>
      (entries.filter fun entry => entry.1 != key.name) ++ [(key.name, .table .header inner)]
  | some _ => key.duplicate

/-- Add one more table to an array of tables, and fill it. -/
def openElement (key : Key) (fill : Drafts → Except Fault Drafts) (entries : Drafts) :
    Except Fault Drafts :=
  match entries.lookup key.name with
  | none => (fill []).map fun inner => entries ++ [(key.name, .tables [.table .header inner])]
  | some (.tables elements) =>
    (fill []).map fun inner =>
      replaceItem entries key.name (.tables (elements ++ [.table .header inner]))
  | some _ => key.duplicate

/-- Carry out a section in the table of the whole text. -/
def TableSection.carryOut (part : TableSection) (entries : Drafts) : Except Fault Drafts := do
  let (path, key) ← readPath part.path
  let fill (inner : Drafts) := fillTable inner part.assignments
  changeAt false
    (fun _ entries =>
      if part.repeated then openElement key fill entries else openTable key fill entries)
    path .header entries

/-- The entries of the table of a whole text. -/
def readTable (text : List Char) : Except Fault (List (String × Item)) := do
  let (front, sections) := splitSections (← statements text)
  let entries ← fillTable [] front
  let entries ← sections.foldlM (fun entries part => part.carryOut entries) entries
  .ok (itemsOf entries)

end TilingConfig.Toml
