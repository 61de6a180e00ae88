import TilingConfig.Binding.Modifier

/-!
# Rejected bindings

The reasons for which a binding descriptor is refused, and their wording.
-/

namespace TilingConfig.Binding

/-- What is wrong with the shape of a descriptor. -/
inductive Malformation where
  /-- The text ends where a key name should stand. -/
  | missingKey
  /-- The text ends where a button name should stand. -/
  | missingButton
  /-- Text is left over behind the key name. -/
  | trailing (rest : String)
  /-- A modifier is not followed by a plus sign. -/
  | missingPlus (after : ModMask)
  /-- No word stands where a modifier should. -/
  | missingModifier
  deriving DecidableEq, Repr

/-- The wording of a malformation. -/
def Malformation.message : Malformation → String
  | missingKey => "missing key name"
  | missingButton => "missing button name"
  | trailing rest => "unexpected trailing input '" ++ rest ++ "'"
  | missingPlus after => "expected '+' after modifier '" ++ after.render ++ "'"
  | missingModifier => "expected a modifier name"

/-- Why a descriptor is refused. -/
inductive Error where
  /-- A word in modifier position is no modifier. -/
  | unknownModifier (name : String)
  /-- No key has this name. -/
  | unknownKey (name : String)
  /-- No button has this name. -/
  | unknownButton (name : String)
  /-- The descriptor has the wrong shape. -/
  | malformed (why : Malformation)
  deriving DecidableEq, Repr

/-- The wording of an error. -/
def Error.message : Error → String
  | unknownModifier name => "unknown modifier '" ++ name ++ "'"
  | unknownKey name => "unknown key '" ++ name ++ "'"
  | unknownButton name => "unknown button '" ++ name ++ "'"
  | malformed why => "malformed binding: " ++ why.message

end TilingConfig.Binding
