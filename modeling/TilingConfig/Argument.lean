import TilingConfig.Number.Style
import TilingConfig.Vocabulary

/-!
# Binding arguments

The argument that an action gets when its binding fires. The number slots are
independent of each other and of the third slot, which holds a text or a layout;
a layout takes it when an entry gives both.
-/

namespace TilingConfig

open TilingConfig.Number

/-- What the third slot of an argument holds. -/
inductive ArgTarget where
  /-- A command line. -/
  | text (command : String)
  /-- A layout. -/
  | layout (ref : LayoutRef)
  deriving DecidableEq, Repr

/-- The argument of a binding. -/
structure Argument where
  /-- The whole number. -/
  int : Option Int64
  /-- The floating-point number. -/
  float : Option Binary32
  /-- The text or the layout. -/
  target : Option ArgTarget
  deriving DecidableEq, Repr

namespace Argument

/-- No argument. -/
def empty : Argument := ⟨none, none, none⟩

/-- A whole number alone. -/
def ofInt (i : Int64) : Argument := { empty with int := some i }

/-- A floating-point number alone. -/
def ofFloat (x : Binary32) : Argument := { empty with float := some x }

/-- A text alone. -/
def ofText (command : String) : Argument := { empty with target := some (.text command) }

/-- A layout alone. -/
def ofLayout (ref : LayoutRef) : Argument := { empty with target := some (.layout ref) }

/-- Whether no slot is filled. -/
def isEmpty (arg : Argument) : Bool := decide (arg = empty)

/-- The argument of the raw fields of an entry; the error is a layout name that is not in the
registry. -/
def resolve (text : Option String) (int : Option Int64) (float : Option Binary32)
    (layout : Option String) : Except String Argument :=
  match layout with
  | some name =>
    match LayoutRef.ofName? name with
    | some found => .ok ⟨int, float, some (.layout found)⟩
    | none => .error name
  | none => .ok ⟨int, float, text.map .text⟩

/-- The third slot as shown in a binding table, if the layout it refers to is there. -/
def describeTarget? : ArgTarget → Option String
  | .text command => some ("\"" ++ command ++ "\"")
  | .layout ref => ref.layout?.map fun layout => "layout=" ++ layout.name

/-- The argument as shown in a binding table, if the layout it refers to is there. -/
def describe? (arg : Argument) : Option String := do
  let target ← arg.target.toList.mapM describeTarget?
  let int := arg.int.toList.map fun i => "i=" ++ toString i.toInt
  let float := arg.float.toList.map fun x => "f=" ++ x.render .message
  some (" ".intercalate (target ++ int ++ float))

end Argument

end TilingConfig
