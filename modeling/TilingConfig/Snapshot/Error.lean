import TilingConfig.Binding.Error
import TilingConfig.Files.View
import TilingConfig.Setting

/-!
# What can go wrong

Reading and building a configuration fail as a whole, with one error: a file that
cannot be read, a text outside its syntax, includes that do not end, or an entry
that does not resolve. An entry error tells the section, the place among the
entries and the field.
-/

namespace TilingConfig

open TilingConfig.Files

/-- The parts of a configuration. -/
inductive Section where
  | appearance
  | layout
  | tags
  | rule
  | key
  | button
  deriving DecidableEq, Repr

/-- The name of the setting that holds a section. -/
def Section.name : Section → String
  | appearance => "appearance"
  | layout => "layout"
  | tags => "tags"
  | rule => "rule"
  | key => "key"
  | button => "button"

/-- Where in a configuration an entry error is. -/
structure Location where
  /-- The section. -/
  part : Section
  /-- The place among repeated sections, or in the list of tags. -/
  index : Option Nat
  /-- The field of the entry. -/
  field : Option String
  deriving DecidableEq, Repr

/-- The written form of a location, such as `key[3].func`. -/
def Location.render (location : Location) : String :=
  location.part.name ++
    (match location.index with
      | some index => "[" ++ toString index ++ "]"
      | none => "") ++
    (match location.field with
      | some field => "." ++ field
      | none => "")

/-- The ranges that a number or list can be outside of. -/
inductive Range where
  /-- Whole numbers that fit 32 bits without a sign. -/
  | unsigned32
  /-- Whole numbers that fit 32 bits with a sign. -/
  | monitorIndex
  /-- The usable fractions of the screen. -/
  | masterFactor
  /-- The number of colours of a scheme. -/
  | colorCount
  deriving DecidableEq, Repr

/-- The wording of a range. -/
def Range.message : Range → String
  | unsigned32 => "0..=4294967295"
  | monitorIndex => "a 32-bit monitor index"
  | masterFactor => "strictly between 0.05 and 0.95"
  | colorCount => "exactly 3 colours [fg, bg, border]"

/-- What is wrong with an entry. -/
inductive Defect where
  /-- No action has this name. -/
  | unknownAction (name : String)
  /-- No layout has this name. -/
  | unknownLayout (name : String)
  /-- No click region has this name. -/
  | unknownClick (name : String)
  /-- The descriptor of a binding is refused. -/
  | binding (input : String) (cause : Binding.Error)
  /-- The field has the wrong kind. -/
  | fieldType (mismatch : Mismatch)
  /-- A field that must be given is not. -/
  | missingField
  /-- A value is outside its range. -/
  | outOfRange (value : String) (range : Range)
  /-- A colour is not of the form `#rrggbb`. -/
  | invalidColor (text : String)
  deriving DecidableEq, Repr

/-- The wording of a defect. -/
def Defect.message : Defect → String
  | unknownAction name => "unknown action '" ++ name ++ "'"
  | unknownLayout name => "unknown layout '" ++ name ++ "'"
  | unknownClick name => "unknown click region '" ++ name ++ "'"
  | binding input cause => "invalid binding '" ++ input ++ "': " ++ cause.message
  | fieldType mismatch =>
    "expected " ++ mismatch.expected.name ++ ", found " ++ mismatch.found.name
  | missingField => "missing required field"
  | outOfRange value range => "value " ++ value ++ " is outside " ++ range.message
  | invalidColor text => "invalid colour '" ++ text ++ "', expected #rrggbb"

/-- What is wrong with the text of a file. -/
inductive SyntaxFault where
  /-- The text is not of its surface syntax. -/
  | malformed (problem : String)
  /-- The whole file is not a mapping but something else. -/
  | topLevel (found : String)
  /-- The name of a setting is not a text. -/
  | settingName (found : String)
  /-- An include directive is neither a path nor a list of paths. -/
  | includeTarget (list found : String)
  deriving DecidableEq, Repr

/-- The wording of a syntax fault. -/
def SyntaxFault.message : SyntaxFault → String
  | malformed problem => problem
  | topLevel found => "top level must be a mapping, found " ++ found
  | settingName found => "setting names must be strings, found " ++ found
  | includeTarget list found =>
    "'include' takes a path or " ++ list ++ " of paths, found " ++ found

/-- Why a configuration cannot be had. -/
inductive ConfigError where
  /-- A file cannot be read. -/
  | unreadable (path : Path) (cause : ReadError)
  /-- The text of a file is at fault, at this line and column. -/
  | badSyntax (path : Path) (line column : Nat) (fault : SyntaxFault)
  /-- A file includes itself, perhaps by way of others. -/
  | includeCycle (path : Path)
  /-- Includes are nested too deeply. -/
  | includeDepth (path : Path)
  /-- An entry does not resolve. -/
  | entry (location : Location) (defect : Defect)
  /-- No file has been loaded that could be loaded again. -/
  | notLoaded
  deriving DecidableEq, Repr

/-- The wording of an error. -/
def ConfigError.message : ConfigError → String
  | unreadable path cause => "cannot read config file '" ++ path.text ++ "': " ++ cause.message
  | badSyntax path line column fault =>
    path.text ++ ":" ++ toString line ++ ":" ++ toString column ++ ": " ++ fault.message
  | includeCycle path => "include cycle: '" ++ path.text ++ "' is already being read"
  | includeDepth path => "includes nested too deeply at '" ++ path.text ++ "'"
  | entry location defect => location.render ++ ": " ++ defect.message
  | notLoaded => "no configuration file has been loaded"

/-- The errors behind an error, nearest first. An unresolved entry is told by its own wording, so
only a read error has one. -/
def ConfigError.causes : ConfigError → List String
  | unreadable _ cause => [cause.message]
  | _ => []

end TilingConfig
