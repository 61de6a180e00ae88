/-!
# The closed vocabularies

The names that a configuration may use for actions, layouts and click regions.
None can be extended: a name outside its registry is an error of the entry that
uses it.
-/

namespace TilingConfig

/-- Which argument an action reads. -/
inductive ArgKind where
  /-- The action takes no argument. -/
  | none
  /-- A step, a difference, a tag mask or a monitor direction. -/
  | int
  /-- A difference of the master-area factor. -/
  | float
  /-- A command line. -/
  | text
  /-- A layout; without one the previous layout is taken again. -/
  | layout
  deriving DecidableEq, Repr

/-- The name of an argument kind. -/
def ArgKind.name : ArgKind → String
  | none => "None"
  | int => "Int"
  | float => "Float"
  | text => "Text"
  | layout => "Layout"

/-- An operation that a binding can trigger. -/
inductive Action where
  | spawn
  | toggleBar
  | focusStack
  | incNMaster
  | setMFact
  | zoom
  | view
  | killClient
  | setLayout
  | toggleFloating
  | tag
  | focusMon
  | tagMon
  | toggleView
  | toggleTag
  | moveMouse
  | resizeMouse
  | quit
  | restart
  deriving DecidableEq, Repr

namespace Action

/-- The name of an action. -/
def name : Action → String
  | spawn => "spawn"
  | toggleBar => "togglebar"
  | focusStack => "focusstack"
  | incNMaster => "incnmaster"
  | setMFact => "setmfact"
  | zoom => "zoom"
  | view => "view"
  | killClient => "killclient"
  | setLayout => "setlayout"
  | toggleFloating => "togglefloating"
  | tag => "tag"
  | focusMon => "focusmon"
  | tagMon => "tagmon"
  | toggleView => "toggleview"
  | toggleTag => "toggletag"
  | moveMouse => "movemouse"
  | resizeMouse => "resizemouse"
  | quit => "quit"
  | restart => "restart"

/-- Every action, in registry order. -/
def registry : List Action :=
  [spawn, toggleBar, focusStack, incNMaster, setMFact, zoom, view, killClient, setLayout,
    toggleFloating, tag, focusMon, tagMon, toggleView, toggleTag, moveMouse, resizeMouse, quit,
    restart]

/-- The action of exactly this name. -/
def ofName? (text : String) : Option Action := registry.find? (·.name == text)

/-- The argument that an action reads. -/
def argKind : Action → ArgKind
  | spawn => .text
  | setMFact => .float
  | setLayout => .layout
  | focusStack | incNMaster | view | tag | focusMon | tagMon | toggleView | toggleTag => .int
  | toggleBar | zoom | killClient | toggleFloating | moveMouse | resizeMouse | quit | restart =>
    .none

/-- Every action is found by its name. -/
theorem ofName?_name (action : Action) : ofName? action.name = some action := by
  cases action <;> decide

end Action

/-- How a layout arranges windows. -/
inductive Arrange where
  | tile
  | monocle
  deriving DecidableEq, Repr

/-- The name of an arrangement. -/
def Arrange.name : Arrange → String
  | tile => "Tile"
  | monocle => "Monocle"

/-- An entry of the layout list. -/
structure Layout where
  /-- The name of the layout in a configuration. -/
  name : String
  /-- The symbol shown in the bar. -/
  symbol : String
  /-- How the layout arranges windows; without an arrangement they float. -/
  arrange? : Option Arrange
  deriving DecidableEq, Repr

/-- The compiled-in layout list. -/
def Layout.registry : List Layout :=
  [⟨"tiled", "[]=", some .tile⟩, ⟨"floating", "><>", none⟩, ⟨"monocle", "[M]", some .monocle⟩]

/-- A reference to a layout. Any number is one, whether it is a place in the list or not. -/
structure LayoutRef where
  /-- The place in the layout list. -/
  index : Nat
  deriving DecidableEq, Repr

namespace LayoutRef

/-- The layout in tiles. -/
def tiled : LayoutRef := ⟨0⟩

/-- The layout without an arrangement. -/
def floating : LayoutRef := ⟨1⟩

/-- The layout with one window at a time. -/
def monocle : LayoutRef := ⟨2⟩

/-- The layout of a fresh monitor. -/
def initial : LayoutRef := tiled

/-- The layout of exactly this name, by its place. -/
def ofName? (text : String) : Option LayoutRef :=
  (Layout.registry.findIdx? (·.name == text)).map mk

/-- The layout at the place. The place is not checked before: one outside the list ends the
program, and there is no layout. -/
def layout? (ref : LayoutRef) : Option Layout := Layout.registry[ref.index]?

end LayoutRef

/-- A region of the screen in which a button binding is active. -/
inductive Click where
  | tagBar
  | ltSymbol
  | statusText
  | winTitle
  | clientWin
  | rootWin
  deriving DecidableEq, Repr

namespace Click

/-- The name of a region. -/
def name : Click → String
  | tagBar => "tagbar"
  | ltSymbol => "ltsymbol"
  | statusText => "statustext"
  | winTitle => "wintitle"
  | clientWin => "clientwin"
  | rootWin => "rootwin"

/-- Every region, in registry order. -/
def registry : List Click := [tagBar, ltSymbol, statusText, winTitle, clientWin, rootWin]

/-- The region of exactly this name. -/
def ofName? (text : String) : Option Click := registry.find? (·.name == text)

/-- Every region is found by its name. -/
theorem ofName?_name (click : Click) : ofName? click.name = some click := by
  cases click <;> decide

end Click

end TilingConfig
