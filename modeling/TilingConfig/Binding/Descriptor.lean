import TilingConfig.Text.Blank
import TilingConfig.Binding.Error
import TilingConfig.Binding.Keysym

/-!
# Binding descriptors

A descriptor such as `super + shift + Return` is a sequence of modifier names,
each followed by a plus sign, and then a key or button name. Blanks may stand
around every word and plus sign.

A bare key or button is tried first; when that fails, the text is read again from
its start as a modifier sequence with a terminal. A key name reaches up to the
next blank; a button name is all of the remaining text.
-/

namespace TilingConfig.Binding

open TilingConfig.Text

/-- A chord: the modifiers that are held, and the key or button they go with. -/
structure Chord (α : Type) where
  /-- The modifiers that have to be held. -/
  mods : ModMask
  /-- The key or button. -/
  target : α
  deriving DecidableEq, Repr

/-- A binding of a key. -/
abbrev KeyBinding := Chord Keysym

/-- A binding of a pointer button. -/
abbrev ButtonBinding := Chord Button

/-- Print a binding, given the printed form of its target. -/
def Chord.renderWith {α : Type} (target : α → String) (binding : Chord α) : String :=
  if binding.mods.isEmpty then target binding.target
  else binding.mods.render ++ " + " ++ target binding.target

/-- The canonical descriptor of a key binding. -/
def renderKey (binding : KeyBinding) : String := binding.renderWith Keysym.render

/-- The canonical descriptor of a button binding. -/
def renderButton (binding : ButtonBinding) : String := binding.renderWith Button.name

/-- A kind of terminal: reads one at the front of a text and gives what follows it. -/
abbrev Terminal (α : Type) := List Char → Except Error (α × List Char)

/-- A key name reaches up to the next blank. -/
def keyTerminal : Terminal Keysym := fun text =>
  let name := text.takeWhile (!isBlank ·)
  if name.isEmpty then .error (.malformed .missingKey)
  else match Keysym.ofChars? name with
    | some key => .ok (key, trimStart (text.drop name.length))
    | none => .error (.unknownKey (String.ofList name))

/-- A button name is all of the remaining text, less the blanks behind it. -/
def buttonTerminal : Terminal Button := fun text =>
  let name := String.ofList (trimEnd text)
  if name.isEmpty then .error (.malformed .missingButton)
  else match Button.ofName? name with
    | some button => .ok (button, [])
    | none => .error (.unknownButton name)

/-- The word in front: everything up to a plus sign or a blank. -/
def word (text : List Char) : List Char := text.takeWhile fun c => c != '+' && !isBlank c

/-- Whether a plus sign follows the word in front. -/
def wordPrecedesPlus (text : List Char) : Bool :=
  (trimStart (text.drop (word text).length)).head? == some '+'

/-- A modifier name in front; only its own length is compared, so `altx` starts with `alt`. -/
def modifier (text : List Char) : Except Error (ModMask × List Char) :=
  match ModMask.registry.find? fun entry => entry.1.toList.isPrefixOf text with
  | some (name, mask) => .ok (mask, trimStart (text.drop name.toList.length))
  | none =>
    if (word text).isEmpty then .error (.malformed .missingModifier)
    else .error (.unknownModifier (String.ofList (word text)))

/-- No modifier name is empty. -/
theorem length_pos_of_mem_registry {entry : String × ModMask}
    (h : entry ∈ ModMask.registry) : 0 < entry.1.toList.length := by
  simp only [ModMask.registry, List.mem_cons, List.not_mem_nil, or_false] at h
  rcases h with rfl | rfl | rfl | rfl <;> decide

/-- Reading a modifier uses up some of the text. -/
theorem length_lt_of_modifier {text rest : List Char} {mask : ModMask}
    (h : modifier text = .ok (mask, rest)) : rest.length < text.length := by
  unfold modifier at h
  split at h
  · rename_i name found hfind
    have hmem := List.mem_of_find?_eq_some hfind
    have hpos := length_pos_of_mem_registry hmem
    have hprefix : (name, found).1.toList.isPrefixOf text = true := by
      simpa using List.find?_some hfind
    have hle := (List.isPrefixOf_iff_prefix.1 hprefix).length_le
    obtain ⟨rfl, rfl⟩ : found = mask ∧ trimStart (text.drop name.toList.length) = rest := by
      simpa using h
    have htrim := length_trimStart_le (text.drop name.toList.length)
    simp only [List.length_drop] at htrim
    simp only at hpos hle
    omega
  · split at h <;> cases h

/-- One or more modifiers, each followed by a plus sign. A word that is followed by a plus sign
stands in modifier position, so an unknown name there is an error; anything else ends the
sequence. -/
def modifiers (text : List Char) : Except Error (ModMask × List Char) :=
  match _h : modifier text with
  | .error e => .error e
  | .ok (mask, '+' :: rest) =>
    let next := trimStart rest
    match modifiers next with
    | .ok (more, after) => .ok (mask ∪ more, after)
    | .error (.unknownModifier name) =>
      if wordPrecedesPlus next then .error (.unknownModifier name) else .ok (mask, next)
    | .error _ => .ok (mask, next)
  | .ok (mask, _) => .error (.malformed (.missingPlus mask))
termination_by text.length
decreasing_by
  have h1 := length_lt_of_modifier _h
  have h2 := length_trimStart_le rest
  simp only [List.length_cons] at h1
  omega

/-- A terminal with nothing behind it. -/
def closing {α : Type} (terminal : Terminal α) (text : List Char) : Except Error α :=
  match terminal text with
  | .error e => .error e
  | .ok (target, []) => .ok target
  | .ok (_, rest) => .error (.malformed (.trailing (String.ofList rest)))

/-- Read a descriptor from its first character that is no blank. -/
def readFrom {α : Type} (terminal : Terminal α) (text : List Char) : Except Error (Chord α) :=
  match closing terminal text with
  | .ok target => .ok ⟨.none, target⟩
  | .error bare =>
    match modifiers text with
    | .ok (mask, rest) =>
      match closing terminal rest with
      | .ok target => .ok ⟨mask, target⟩
      | .error e => .error e
    | .error (.unknownModifier name) =>
      if wordPrecedesPlus text then .error (.unknownModifier name) else .error bare
    | .error e => .error e

/-- Read a descriptor of the given kind of terminal. -/
def readWith {α : Type} (terminal : Terminal α) (text : List Char) : Except Error (Chord α) :=
  readFrom terminal (trimStart text)

/-- Read a key descriptor such as `super + shift + p`. -/
def readKey (text : String) : Except Error KeyBinding := readWith keyTerminal text.toList

/-- Read a button descriptor such as `super + left`. -/
def readButton (text : String) : Except Error ButtonBinding := readWith buttonTerminal text.toList

end TilingConfig.Binding
