import TilingConfig.Argument
import TilingConfig.Binding.Descriptor
import TilingConfig.Text.Blank

/-!
# Configuration snapshots

A snapshot is one complete description of everything that can be configured.
-/

namespace TilingConfig

open TilingConfig.Binding TilingConfig.CoreInstances TilingConfig.Number TilingConfig.Text

/-- The colours of one scheme, each written `#rrggbb`. -/
structure ColorScheme where
  /-- The foreground. -/
  fg : String
  /-- The background. -/
  bg : String
  /-- The window border. -/
  border : String
  deriving DecidableEq, Repr

/-- The schemes of unfocused and of focused elements. -/
structure Colors where
  /-- Unfocused elements. -/
  norm : ColorScheme
  /-- Focused elements. -/
  sel : ColorScheme
  deriving DecidableEq, Repr

/-- How windows and the bar look. -/
structure Appearance where
  /-- The width of window borders, in pixels. -/
  borderpx : UInt32
  /-- The snap distance, in pixels. -/
  snap : UInt32
  /-- Whether there is a bar. -/
  showbar : Bool
  /-- Whether the bar is at the top. -/
  topbar : Bool
  /-- The gap between windows, in pixels. -/
  gappx : UInt32
  /-- The fonts, first choice first. -/
  fonts : List String
  /-- The colours. -/
  colors : Colors
  deriving DecidableEq, Repr

/-- How windows are laid out. -/
structure LayoutSettings where
  /-- The fraction of the screen that the master area takes. -/
  mfact : Binary32
  /-- The number of windows in the master area. -/
  nmaster : UInt32
  /-- Whether size hints are respected in tiled windows. -/
  resizehints : Bool
  /-- Whether the focus stays on a fullscreen window. -/
  lockfullscreen : Bool
  /-- How often a moved window is redrawn, per second. -/
  refreshrate : UInt32
  deriving DecidableEq, Repr

/-- What to do with a new window. A pattern that is not given matches every window. -/
structure Rule where
  /-- A part of the window class. -/
  windowClass : Option String
  /-- A part of the instance name. -/
  windowInstance : Option String
  /-- A part of the title. -/
  title : Option String
  /-- The tags that the window gets. -/
  tags : UInt32
  /-- Whether the window floats. -/
  isfloating : Bool
  /-- The monitor that the window goes to, `-1` for the current one. -/
  monitor : Int32
  deriving DecidableEq, Repr

/-- Whether a pattern, if there is one, occurs in a text. -/
def patternMatches (pattern : Option String) (text : String) : Bool :=
  match pattern with
  | none => true
  | some part => occursIn part.toList text.toList

/-- Whether a rule applies to a window. -/
def Rule.appliesTo (rule : Rule) (windowClass windowInstance title : String) : Bool :=
  patternMatches rule.windowClass windowClass &&
    patternMatches rule.windowInstance windowInstance && patternMatches rule.title title

/-- A key binding and what it does. -/
structure KeyCommand where
  /-- The key and its modifiers. -/
  binding : KeyBinding
  /-- What is done. -/
  action : Action
  /-- With which argument. -/
  arg : Argument
  deriving DecidableEq, Repr

/-- A button binding, the region in which it is active, and what it does. -/
structure ButtonCommand where
  /-- The region. -/
  click : Click
  /-- The button and its modifiers. -/
  binding : ButtonBinding
  /-- What is done. -/
  action : Action
  /-- With which argument. -/
  arg : Argument
  deriving DecidableEq, Repr

/-- One complete configuration. -/
structure Snapshot where
  /-- How windows and the bar look. -/
  appearance : Appearance
  /-- How windows are laid out. -/
  layout : LayoutSettings
  /-- The names of the tags; the place of a name is the bit of its tag. -/
  tags : List String
  /-- What to do with new windows. -/
  rules : List Rule
  /-- The key bindings. -/
  keys : List KeyCommand
  /-- The button bindings. -/
  buttons : List ButtonCommand
  deriving DecidableEq, Repr

namespace Snapshot

/-- The mask with the bit of every tag; tags from the thirty-third on have no bit. -/
def tagMask (snapshot : Snapshot) : UInt32 := UInt32.ofNat (2 ^ min snapshot.tags.length 32 - 1)

/-- The layout of a fresh monitor. -/
def initialLayout (_ : Snapshot) : LayoutRef := .initial

/-- The rules that apply to a window, in file order. -/
def rulesFor (snapshot : Snapshot) (windowClass windowInstance title : String) : List Rule :=
  snapshot.rules.filter (·.appliesTo windowClass windowInstance title)

end Snapshot

end TilingConfig
