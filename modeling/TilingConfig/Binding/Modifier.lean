import TilingConfig.Text.Numeral

/-!
# Modifiers and pointer buttons

The closed vocabularies of a binding: four modifier keys, which are combined as
the bits of a mask, and three pointer buttons.
-/

namespace TilingConfig.Binding

open TilingConfig.Text

/-- A set of modifier keys, by their bits in the core protocol of the windowing system. -/
structure ModMask where
  /-- The bits of the keys that are held. -/
  bits : UInt16
  deriving DecidableEq, Repr

namespace ModMask

/-- No modifier. -/
def none : ModMask := ⟨0⟩

/-- The shift key alone. -/
def shiftKey : ModMask := ⟨0x01⟩

/-- The control key alone. -/
def ctrlKey : ModMask := ⟨0x04⟩

/-- The alternate key alone. -/
def altKey : ModMask := ⟨0x08⟩

/-- The super key alone. -/
def superKey : ModMask := ⟨0x40⟩

/-- All modifiers of either set. -/
def union (a b : ModMask) : ModMask := ⟨a.bits ||| b.bits⟩

instance : Union ModMask := ⟨union⟩

/-- Every modifier. -/
def all : ModMask := shiftKey ∪ ctrlKey ∪ altKey ∪ superKey

/-- Whether `a` holds every bit of `b`. -/
def contains (a b : ModMask) : Bool := decide (a.bits &&& b.bits = b.bits)

/-- Whether no bit is set. -/
def isEmpty (mask : ModMask) : Bool := decide (mask.bits = 0)

/-- The modifier names, in the order in which a mask is printed. -/
def registry : List (String × ModMask) :=
  [("alt", altKey), ("super", superKey), ("ctrl", ctrlKey), ("shift", shiftKey)]

/-- The modifier of exactly this name. -/
def ofName? (name : String) : Option ModMask :=
  (registry.find? fun entry => entry.1 == name).map Prod.snd

/-- The names of the held modifiers, joined by plus signs. -/
def render (mask : ModMask) : String :=
  " + ".intercalate ((registry.filter fun entry => mask.contains entry.2).map Prod.fst)

/-- The printed mask, with a word for the empty one. -/
def describe (mask : ModMask) : String := if mask.isEmpty then "NONE" else mask.render

/-- The flag identifiers, in the order of their bits. -/
def flags : List (String × ModMask) :=
  [("SHIFT", shiftKey), ("CTRL", ctrlKey), ("ALT", altKey), ("SUPER", superKey)]

/-- The bits that no modifier has. -/
def strayBits (mask : ModMask) : UInt16 := mask.bits &&& ~~~all.bits

/-- The mask as a list of flag identifiers, the form in which it is stored. Stray bits are written
behind them as a number. -/
def flagText (mask : ModMask) : String :=
  let named := (flags.filter fun entry => mask.contains entry.2).map Prod.fst
  let stray :=
    if mask.strayBits = 0 then [] else ["0x" ++ hexadecimal mask.strayBits.toNat]
  " | ".intercalate (named ++ stray)

end ModMask

/-- A pointer button. -/
inductive Button where
  | left
  | middle
  | right
  deriving DecidableEq, Repr

namespace Button

/-- The name of a button. -/
def name : Button → String
  | left => "left"
  | middle => "middle"
  | right => "right"

/-- The number of a button in the windowing system. -/
def number : Button → Nat
  | left => 1
  | middle => 2
  | right => 3

/-- The buttons, in registry order. -/
def registry : List Button := [left, right, middle]

/-- The button of exactly this name. -/
def ofName? (text : String) : Option Button := registry.find? (·.name == text)

/-- Every button is found by its name. -/
theorem ofName?_name (button : Button) : ofName? button.name = some button := by
  cases button <;> decide

end Button

end TilingConfig.Binding
