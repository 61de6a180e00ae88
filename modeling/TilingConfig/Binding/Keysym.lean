import TilingConfig.CoreInstances
import TilingConfig.Text.Numeral

/-!
# Key symbols

A key symbol is the 32-bit number by which a windowing system knows a key. It is
written by name: a word of a fixed table, a single letter or digit, a function
key `F1` to `F35`, a raw number `0x…`, or a code point `U…`. Names are case
sensitive.
-/

namespace TilingConfig.Binding

open TilingConfig.CoreInstances TilingConfig.Text

/-- A key symbol, by its number. -/
structure Keysym where
  /-- The number that the windowing system uses. -/
  code : UInt32
  deriving DecidableEq, Repr

namespace Keysym

/-- The named key symbols. Where two names share a number, the first one is the one printed. -/
def names : List (String × UInt32) := [
  -- Latin-1 punctuation
  ("space", 0x0020),
  ("exclam", 0x0021),
  ("quotedbl", 0x0022),
  ("numbersign", 0x0023),
  ("dollar", 0x0024),
  ("percent", 0x0025),
  ("ampersand", 0x0026),
  ("apostrophe", 0x0027),
  ("quoteright", 0x0027),
  ("parenleft", 0x0028),
  ("parenright", 0x0029),
  ("asterisk", 0x002a),
  ("plus", 0x002b),
  ("comma", 0x002c),
  ("minus", 0x002d),
  ("period", 0x002e),
  ("slash", 0x002f),
  ("colon", 0x003a),
  ("semicolon", 0x003b),
  ("less", 0x003c),
  ("equal", 0x003d),
  ("greater", 0x003e),
  ("question", 0x003f),
  ("at", 0x0040),
  ("bracketleft", 0x005b),
  ("backslash", 0x005c),
  ("bracketright", 0x005d),
  ("asciicircum", 0x005e),
  ("underscore", 0x005f),
  ("grave", 0x0060),
  ("quoteleft", 0x0060),
  ("braceleft", 0x007b),
  ("bar", 0x007c),
  ("braceright", 0x007d),
  ("asciitilde", 0x007e),
  -- TTY function keys
  ("BackSpace", 0xff08),
  ("Tab", 0xff09),
  ("Linefeed", 0xff0a),
  ("Clear", 0xff0b),
  ("Return", 0xff0d),
  ("Pause", 0xff13),
  ("Scroll_Lock", 0xff14),
  ("Sys_Req", 0xff15),
  ("Escape", 0xff1b),
  ("Delete", 0xffff),
  -- Cursor control
  ("Home", 0xff50),
  ("Left", 0xff51),
  ("Up", 0xff52),
  ("Right", 0xff53),
  ("Down", 0xff54),
  ("Prior", 0xff55),
  ("Page_Up", 0xff55),
  ("Next", 0xff56),
  ("Page_Down", 0xff56),
  ("End", 0xff57),
  ("Begin", 0xff58),
  -- Misc functions
  ("Select", 0xff60),
  ("Print", 0xff61),
  ("Execute", 0xff62),
  ("Insert", 0xff63),
  ("Undo", 0xff65),
  ("Redo", 0xff66),
  ("Menu", 0xff67),
  ("Find", 0xff68),
  ("Cancel", 0xff69),
  ("Help", 0xff6a),
  ("Break", 0xff6b),
  ("Mode_switch", 0xff7e),
  ("Num_Lock", 0xff7f),
  -- Keypad
  ("KP_Space", 0xff80),
  ("KP_Tab", 0xff89),
  ("KP_Enter", 0xff8d),
  ("KP_Home", 0xff95),
  ("KP_Left", 0xff96),
  ("KP_Up", 0xff97),
  ("KP_Right", 0xff98),
  ("KP_Down", 0xff99),
  ("KP_Prior", 0xff9a),
  ("KP_Page_Up", 0xff9a),
  ("KP_Next", 0xff9b),
  ("KP_Page_Down", 0xff9b),
  ("KP_End", 0xff9c),
  ("KP_Begin", 0xff9d),
  ("KP_Insert", 0xff9e),
  ("KP_Delete", 0xff9f),
  ("KP_Multiply", 0xffaa),
  ("KP_Add", 0xffab),
  ("KP_Separator", 0xffac),
  ("KP_Subtract", 0xffad),
  ("KP_Decimal", 0xffae),
  ("KP_Divide", 0xffaf),
  ("KP_0", 0xffb0),
  ("KP_1", 0xffb1),
  ("KP_2", 0xffb2),
  ("KP_3", 0xffb3),
  ("KP_4", 0xffb4),
  ("KP_5", 0xffb5),
  ("KP_6", 0xffb6),
  ("KP_7", 0xffb7),
  ("KP_8", 0xffb8),
  ("KP_9", 0xffb9),
  ("KP_Equal", 0xffbd),
  -- Modifier keys
  ("Shift_L", 0xffe1),
  ("Shift_R", 0xffe2),
  ("Control_L", 0xffe3),
  ("Control_R", 0xffe4),
  ("Caps_Lock", 0xffe5),
  ("Shift_Lock", 0xffe6),
  ("Meta_L", 0xffe7),
  ("Meta_R", 0xffe8),
  ("Alt_L", 0xffe9),
  ("Alt_R", 0xffea),
  ("Super_L", 0xffeb),
  ("Super_R", 0xffec),
  ("Hyper_L", 0xffed),
  ("Hyper_R", 0xffee),
  -- XF86 vendor keys
  ("XF86MonBrightnessUp", 0x1008ff02),
  ("XF86MonBrightnessDown", 0x1008ff03),
  ("XF86AudioLowerVolume", 0x1008ff11),
  ("XF86AudioMute", 0x1008ff12),
  ("XF86AudioRaiseVolume", 0x1008ff13),
  ("XF86AudioPlay", 0x1008ff14),
  ("XF86AudioStop", 0x1008ff15),
  ("XF86AudioPrev", 0x1008ff16),
  ("XF86AudioNext", 0x1008ff17),
  ("XF86Mail", 0x1008ff19),
  ("XF86Search", 0x1008ff1b),
  ("XF86Calculator", 0x1008ff1d),
  ("XF86Explorer", 0x1008ff5d),
  ("XF86AudioPause", 0x1008ff31),
  ("XF86AudioMicMute", 0x1008ffb2)]

/-- The number that the table gives for a name. -/
def named? (name : List Char) : Option UInt32 :=
  (names.find? fun entry => entry.1.toList == name).map Prod.snd

/-- A single ASCII letter or digit names itself. -/
def alphanumeric? : List Char → Option UInt32
  | [c] => if c.isAlphanum then some c.val else none
  | _ => none

/-- The number of the function key `F1`; the others follow it. -/
def firstFunctionKey : Nat := 0xffbe

/-- `F` and a number from 1 to 35 that does not start with a zero. -/
def functionKey? : List Char → Option UInt32
  | 'F' :: digits =>
    if digits.head? = some '0' then none
    else match unsigned? 10 (2 ^ (32 : Nat)) digits with
      | some n => if 1 ≤ n ∧ n ≤ 35 then some (UInt32.ofNat (firstFunctionKey + n - 1)) else none
      | none => none
  | _ => none

/-- `0x` and a hexadecimal number other than zero. -/
def raw? : List Char → Option UInt32
  | '0' :: 'x' :: digits =>
    match unsigned? 16 (2 ^ (32 : Nat)) digits with
    | some n => if n = 0 then none else some (UInt32.ofNat n)
    | none => none
  | _ => none

/-- The key symbol number of a character: its Latin-1 code, or the code point with a marking bit. -/
def ofCodePoint? (n : Nat) : Option UInt32 :=
  if (0x20 ≤ n ∧ n ≤ 0x7e) ∨ (0xa0 ≤ n ∧ n ≤ 0xff) then some (UInt32.ofNat n)
  else if 0x100 ≤ n ∧ n ≤ 0x10ffff then some (UInt32.ofNat (0x1000000 + n))
  else none

/-- `U` and one to six hexadecimal digits. -/
def codePoint? : List Char → Option UInt32
  | 'U' :: digits => if 6 < digits.length then none else (natural? 16 digits).bind ofCodePoint?
  | _ => none

/-- Look a name up: the table first, then the systematic names. -/
def ofChars? (name : List Char) : Option Keysym :=
  ((((named? name).or (alphanumeric? name)).or (functionKey? name)).or
    ((raw? name).or (codePoint? name))).map Keysym.mk

/-- Look a name up. -/
def ofName? (name : String) : Option Keysym := ofChars? name.toList

/-- The canonical name, when the key has one. -/
def name? (key : Keysym) : Option String :=
  let n := key.code.toNat
  if n < 128 ∧ (Char.ofNat n).isAlphanum then some (String.singleton (Char.ofNat n))
  else if firstFunctionKey ≤ n ∧ n ≤ firstFunctionKey + 34 then
    some ("F" ++ toString (n - firstFunctionKey + 1))
  else (names.find? fun entry => entry.2 == key.code).map Prod.fst

/-- The canonical name, or the raw number of a key without one. -/
def render (key : Keysym) : String :=
  key.name?.getD ("0x" ++ hexadecimal key.code.toNat)

/-- The space bar. -/
def space : Keysym := ⟨0x20⟩

/-- The return key. -/
def enter : Keysym := ⟨0xff0d⟩

/-- The tabulator key. -/
def tab : Keysym := ⟨0xff09⟩

/-- The key that types an ASCII character. -/
def ofChar (c : Char) : Keysym := ⟨c.val⟩

end Keysym

end TilingConfig.Binding
