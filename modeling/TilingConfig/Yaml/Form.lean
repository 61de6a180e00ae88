import TilingConfig.Yaml.Quote

/-!
# Written documents

A form is a value to be written as a document, with one entry or element in a
line. The elements of a list stand at the indentation of its key.
-/

namespace TilingConfig.Yaml

/-- A value to be written. -/
inductive Form where
  /-- A number, a truth value or nothing, as it is written. -/
  | word (text : String)
  /-- A text. -/
  | text (text : String)
  /-- A text under a tag. -/
  | tagged (tag text : String)
  /-- A list. -/
  | list (items : List Form)
  /-- Named values in order. -/
  | record (entries : List (String × Form))
  deriving Repr

namespace Form

/-- A truth value. -/
def bool (b : Bool) : Form := word (if b then "true" else "false")

/-- A text, or nothing. -/
def optionalText : Option String → Form
  | some s => text s
  | none => word "null"

/-- End a line, unless the last character has done so. -/
def endLine (cs : List Char) : List Char :=
  if cs.getLast?.any isBreak then cs else cs ++ ['\n']

mutual

/-- What stands behind a key at the given indentation, with the end of the line. -/
def afterKey (indent : Nat) : Form → List Char
  | word s => endLine (' ' :: s.toList)
  | text s => endLine (' ' :: renderText (indent + indentStep) s)
  | tagged tag s => endLine (" !".toList ++ tag.toList ++ ' ' :: renderText (indent + indentStep) s)
  | list [] => " []\n".toList
  | list (item :: items) => '\n' :: elements indent (item :: items)
  | record [] => " \x7b\x7d\n".toList
  | record (entry :: entries) =>
    '\n' :: fields (indent + indentStep) (spaces (indent + indentStep)) (entry :: entries)

/-- What stands behind the hyphen of an element at the given indentation. -/
def afterHyphen (indent : Nat) : Form → List Char
  | word s => endLine (' ' :: s.toList)
  | text s => endLine (' ' :: renderText (indent + indentStep) s)
  | tagged tag s => endLine (" !".toList ++ tag.toList ++ ' ' :: renderText (indent + indentStep) s)
  | list items =>
    if items.isEmpty then " []\n".toList else '\n' :: elements (indent + indentStep) items
  | record [] => " \x7b\x7d\n".toList
  | record (entry :: entries) => fields (indent + indentStep) [' '] (entry :: entries)

/-- The elements of a list. -/
def elements (indent : Nat) : List Form → List Char
  | [] => []
  | item :: items => spaces indent ++ '-' :: afterHyphen indent item ++ elements indent items

/-- The entries of a record; `lead` stands before the first of them. -/
def fields (indent : Nat) (lead : List Char) : List (String × Form) → List Char
  | [] => []
  | (name, value) :: entries =>
    lead ++ name.toList ++ ':' :: afterKey indent value ++ fields indent (spaces indent) entries

end

/-- The document of a record or list, or a single scalar. -/
def render : Form → String
  | record (entry :: entries) => String.ofList (fields 0 [] (entry :: entries))
  | list (item :: items) => String.ofList (elements 0 (item :: items))
  | other => String.ofList ((afterKey 0 other).drop 1)

end Form

end TilingConfig.Yaml
