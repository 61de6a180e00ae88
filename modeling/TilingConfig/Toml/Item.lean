import TilingConfig.Number.Binary

/-!
# TOML trees

What a TOML text says: a table of named items in the order of their first
appearance.
-/

namespace TilingConfig.Toml

open TilingConfig.Number

/-- A value or a table. -/
inductive Item where
  | boolean (b : Bool)
  | integer (i : Int64)
  | float (x : Binary64)
  | string (s : String)
  /-- A date, a time or both, in normal form. -/
  | datetime (text : String)
  | array (items : List Item)
  | table (entries : List (String × Item))
  deriving Repr

/-- The name of an item's kind in messages. -/
def Item.kindName : Item → String
  | boolean _ => "boolean"
  | integer _ => "integer"
  | float _ => "float"
  | string _ => "string"
  | datetime _ => "datetime"
  | array _ => "array"
  | table _ => "table"

end TilingConfig.Toml
