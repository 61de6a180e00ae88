import TilingConfig.Number.Binary

/-!
# Settings

A configuration is read into a tree of named settings, whatever surface syntax it
was written in. A group keeps its settings in file order and names may repeat:
the last setting of a name is the one that counts, and repeated groups make up
the entries of a section.
-/

namespace TilingConfig

open TilingConfig.Number

/-- A setting value. -/
inductive Value where
  /-- A truth value. -/
  | bool (b : Bool)
  /-- A whole number. -/
  | int (i : Int64)
  /-- A floating-point number. -/
  | float (x : Binary64)
  /-- A text. -/
  | str (s : String)
  /-- A list of values. -/
  | array (items : List Value)
  /-- Named settings in order. -/
  | group (settings : List (String × Value))
  deriving Repr

/-- Named settings in file order; names may repeat. -/
abbrev Group := List (String × Value)

/-- What a value can be, and what a field can ask for. -/
inductive Kind where
  | boolean
  | integer
  | float
  | string
  | array
  | group
  /-- An array whose elements are all strings. -/
  | strings
  deriving DecidableEq, Repr

/-- The name of a kind in messages. -/
def Kind.name : Kind → String
  | boolean => "boolean"
  | integer => "integer"
  | float => "float"
  | string => "string"
  | array => "array"
  | group => "group"
  | strings => "array of strings"

/-- The kind of a value. -/
def Value.kind : Value → Kind
  | bool _ => .boolean
  | int _ => .integer
  | float _ => .float
  | str _ => .string
  | array _ => .array
  | group _ => .group

/-- A value of the wrong kind for the field that it was read as. -/
structure Mismatch where
  /-- What the field asks for. -/
  expected : Kind
  /-- What was found. -/
  found : Kind
  deriving DecidableEq, Repr

namespace Value

/-- The value as a truth value. -/
def bool? : Value → Option Bool
  | bool b => some b
  | _ => none

/-- The value as a whole number. -/
def int? : Value → Option Int64
  | int i => some i
  | _ => none

/-- The value as a floating-point number; a whole number is rounded to one. -/
def float? : Value → Option Binary64
  | float x => some x
  | int i => some (.ofInt i.toInt)
  | _ => none

/-- The value as a text. -/
def str? : Value → Option String
  | str s => some s
  | _ => none

/-- The value as a group. -/
def group? : Value → Option Group
  | group settings => some settings
  | _ => none

/-- The sections that a value stands for: an array stands for each of its elements. -/
def sections : Value → List Value
  | array items => items
  | other => [other]

end Value

/-- The texts in a list of values; the first value of another kind is an error. -/
def textsOf : List Value → Except Mismatch (List String)
  | [] => .ok []
  | .str s :: rest => (textsOf rest).map (s :: ·)
  | other :: _ => .error ⟨.string, other.kind⟩

namespace Group

/-- The last setting of a name. -/
def get? (g : Group) (name : String) : Option Value :=
  (g.reverse.find? fun setting => setting.1 == name).map Prod.snd

/-- Every section of a name, in file order. -/
def sections (g : Group) (name : String) : List Value :=
  (g.filter fun setting => setting.1 == name).flatMap fun setting => setting.2.sections

/-- Read a field of the given kind. -/
def field? {α : Type} (g : Group) (name : String) (expected : Kind) (take : Value → Option α) :
    Except Mismatch (Option α) :=
  match g.get? name with
  | none => .ok none
  | some value =>
    match take value with
    | some a => .ok (some a)
    | none => .error ⟨expected, value.kind⟩

/-- Read a truth value. -/
def bool? (g : Group) (name : String) : Except Mismatch (Option Bool) :=
  g.field? name .boolean Value.bool?

/-- Read a whole number. -/
def int? (g : Group) (name : String) : Except Mismatch (Option Int64) :=
  g.field? name .integer Value.int?

/-- Read a floating-point number; whole numbers are accepted. -/
def float? (g : Group) (name : String) : Except Mismatch (Option Binary64) :=
  g.field? name .float Value.float?

/-- Read a text. -/
def str? (g : Group) (name : String) : Except Mismatch (Option String) :=
  g.field? name .string Value.str?

/-- Read a group. -/
def group? (g : Group) (name : String) : Except Mismatch (Option Group) :=
  g.field? name .group Value.group?

/-- Read a list of texts. -/
def strings? (g : Group) (name : String) : Except Mismatch (Option (List String)) :=
  match g.get? name with
  | none => .ok none
  | some (.array items) => (textsOf items).map some
  | some value => .error ⟨.strings, value.kind⟩

/-- The last setting wins: a setting at the end is the one that is found. -/
theorem get?_append_single (g : Group) (name : String) (value : Value) :
    get? (g ++ [(name, value)]) name = some value := by
  simp [get?]

/-- Sections of joined groups are joined. -/
theorem sections_append (g h : Group) (name : String) :
    sections (g ++ h) name = sections g name ++ sections h name := by
  simp [sections]

end Group

end TilingConfig
