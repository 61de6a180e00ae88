import TilingConfig.Snapshot.Basic

/-!
# The built-in configuration

The snapshot that is used when no configuration file is loaded; its appearance,
layout and tags also stand in for what a file leaves out.
-/

namespace TilingConfig.Default

open TilingConfig.Binding TilingConfig.CoreInstances TilingConfig.Number

/-- The default look. -/
def appearance : Appearance where
  borderpx := 1
  snap := 32
  showbar := true
  topbar := true
  gappx := 4
  fonts := ["monospace:size=10"]
  colors :=
    { norm := ⟨"#bbbbbb", "#222222", "#444444"⟩
      sel := ⟨"#eeeeee", "#005577", "#005577"⟩ }

/-- The default layout settings. -/
def layoutSettings : LayoutSettings where
  mfact := .round false 55 100
  nmaster := 1
  resizehints := true
  lockfullscreen := true
  refreshrate := 120

/-- The digits that name the default tags. -/
def tagDigits : List Char := ['1', '2', '3', '4', '5', '6', '7', '8', '9']

/-- The default tags. -/
def tags : List String := tagDigits.map String.singleton

/-- The tag mask of all tags, those that do not exist included. -/
def allTags : Int64 := 0xffffffff

/-- The modifier of all window manager bindings. -/
def main : ModMask := .superKey

/-- The main modifier with shift. -/
def mainShift : ModMask := main ∪ .shiftKey

/-- The main modifier with control. -/
def mainCtrl : ModMask := main ∪ .ctrlKey

/-- A command on a key. -/
def key (mods : ModMask) (key : Keysym) (action : Action) (arg : Argument) : KeyCommand :=
  ⟨⟨mods, key⟩, action, arg⟩

/-- A command on the key of a character. -/
def charKey (mods : ModMask) (c : Char) (action : Action) (arg : Argument) : KeyCommand :=
  key mods (.ofChar c) action arg

/-- The keys that have nothing to do with a single tag. -/
def generalKeys : List KeyCommand := [
  charKey main 'p' .spawn (.ofText "rofi -show drun"),
  key mainShift .enter .spawn (.ofText "st"),
  charKey main 'b' .toggleBar .empty,
  charKey main 'j' .focusStack (.ofInt 1),
  charKey main 'k' .focusStack (.ofInt (-1)),
  charKey main 'i' .incNMaster (.ofInt 1),
  charKey main 'd' .incNMaster (.ofInt (-1)),
  charKey main 'h' .setMFact (.ofFloat (.round true 5 100)),
  charKey main 'l' .setMFact (.ofFloat (.round false 5 100)),
  key main .enter .zoom .empty,
  key main .tab .view .empty,
  charKey mainShift 'c' .killClient .empty,
  charKey main 't' .setLayout (.ofLayout .tiled),
  charKey main 'f' .setLayout (.ofLayout .floating),
  charKey main 'm' .setLayout (.ofLayout .monocle),
  key main .space .setLayout .empty,
  key mainShift .space .toggleFloating .empty,
  charKey main '0' .view (.ofInt allTags),
  charKey mainShift '0' .tag (.ofInt allTags),
  charKey main ',' .focusMon (.ofInt (-1)),
  charKey main '.' .focusMon (.ofInt 1),
  charKey mainShift ',' .tagMon (.ofInt (-1)),
  charKey mainShift '.' .tagMon (.ofInt 1)
]

/-- The four keys of one tag. -/
def tagKeys (digit : Char) (bit : Nat) : List KeyCommand :=
  let mask := Argument.ofInt (Int64.ofNat (2 ^ bit))
  [charKey main digit .view mask, charKey mainCtrl digit .toggleView mask,
    charKey mainShift digit .tag mask, charKey (mainCtrl ∪ .shiftKey) digit .toggleTag mask]

/-- The default key bindings. -/
def keys : List KeyCommand :=
  generalKeys ++ (tagDigits.zipIdx.flatMap fun (digit, bit) => tagKeys digit bit) ++
    [charKey mainShift 'q' .quit .empty, charKey mainShift 'r' .restart .empty]

/-- The default button bindings. -/
def buttons : List ButtonCommand := [
  ⟨.ltSymbol, ⟨.none, .left⟩, .setLayout, .empty⟩,
  ⟨.ltSymbol, ⟨.none, .right⟩, .setLayout, .ofLayout .monocle⟩,
  ⟨.winTitle, ⟨.none, .middle⟩, .zoom, .empty⟩,
  ⟨.statusText, ⟨.none, .middle⟩, .spawn, .ofText "st"⟩,
  ⟨.clientWin, ⟨main, .left⟩, .moveMouse, .empty⟩,
  ⟨.clientWin, ⟨main, .middle⟩, .toggleFloating, .empty⟩,
  ⟨.clientWin, ⟨main, .right⟩, .resizeMouse, .empty⟩,
  ⟨.tagBar, ⟨.none, .left⟩, .view, .empty⟩,
  ⟨.tagBar, ⟨.none, .right⟩, .toggleView, .empty⟩,
  ⟨.tagBar, ⟨main, .left⟩, .tag, .empty⟩,
  ⟨.tagBar, ⟨main, .right⟩, .toggleTag, .empty⟩
]

/-- The default window rules. -/
def rules : List Rule := [
  ⟨some "Gimp", none, none, 0, true, -1⟩,
  ⟨some "Firefox", none, none, 0x100, false, -1⟩
]

/-- The built-in configuration. -/
def snapshot : Snapshot := ⟨appearance, layoutSettings, tags, rules, keys, buttons⟩

end TilingConfig.Default
