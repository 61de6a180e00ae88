import TilingConfig.Yaml.Cursor

/-!
# YAML tokens

The words of a YAML text. Indentation shows as tokens too: one where a block
collection starts and one where it ends.
-/

namespace TilingConfig.Yaml

/-- The text of a tag. Its characters are ASCII; escapes may add any other octets. -/
abbrev Octets := List UInt8

/-- What a token is. -/
inductive TokenKind where
  | streamEnd
  | versionDirective (major minor : Nat)
  | tagDirective (handle : List Char) (stem : Octets)
  | documentStart
  | documentEnd
  | blockSequenceStart
  | blockMappingStart
  | blockEnd
  | flowSequenceStart
  | flowSequenceEnd
  | flowMappingStart
  | flowMappingEnd
  | blockEntry
  | flowEntry
  | key
  | value
  | alias (name : List Char)
  | anchor (name : List Char)
  | tag (handle : List Char) (suffix : Octets)
  | scalar (text : List Char) (plain : Bool)
  deriving DecidableEq, Repr

/-- A token and its extent. -/
structure Token where
  /-- What it is. -/
  kind : TokenKind
  /-- Its first character. -/
  start : Mark
  /-- What follows it. -/
  stop : Mark
  deriving DecidableEq, Repr

end TilingConfig.Yaml
