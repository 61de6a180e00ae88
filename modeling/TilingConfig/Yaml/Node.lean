import TilingConfig.Number.Binary

/-!
# YAML trees

What a document says once anchors, scalar styles and spellings are resolved.
Mappings keep their order. Two nodes are the same if they hold the same values;
the order of a mapping and an exclamation mark before the name of a tag do not
count then.
-/

namespace TilingConfig.Yaml

open TilingConfig.Number

/-- A node of a document. -/
inductive Node where
  | null
  | bool (b : Bool)
  | integer (n : Int)
  | float (x : Binary64)
  | string (s : String)
  | sequence (items : List Node)
  | mapping (entries : List (Node × Node))
  | tagged (tag : String) (node : Node)
  deriving Repr

namespace Node

/-- The name of a node's kind in messages. -/
def kindName : Node → String
  | null => "null"
  | bool _ => "boolean"
  | integer _ | float _ => "number"
  | string _ => "string"
  | sequence _ => "sequence"
  | mapping _ => "mapping"
  | tagged _ _ => "tagged value"

/-- The name of a tag without an exclamation mark before it; a lone mark is a name itself. -/
def bareTag (tag : String) : List Char :=
  match tag.toList with
  | '!' :: c :: rest => c :: rest
  | cs => cs

mutual

/-- Whether two nodes hold the same values. -/
def same : Node → Node → Bool
  | null, null => true
  | bool a, bool b => a == b
  | integer m, integer n => m == n
  | float x, float y => x.reading.same y.reading
  | string s, string t => s == t
  | sequence xs, sequence ys => sameAll xs ys
  | mapping xs, mapping ys => xs.length == ys.length && sameEntries xs ys
  | tagged a x, tagged b y => bareTag a == bareTag b && same x y
  | _, _ => false

/-- Whether two lists hold the same values in the same order. -/
def sameAll : List Node → List Node → Bool
  | [], [] => true
  | x :: xs, y :: ys => same x y && sameAll xs ys
  | _, _ => false

/-- Whether every entry of one list has the same entry in the other. -/
def sameEntries : List (Node × Node) → List (Node × Node) → Bool
  | [], _ => true
  | (key, value) :: rest, entries =>
    (entries.any fun entry => same key entry.1 && same value entry.2) && sameEntries rest entries

end

end Node

end TilingConfig.Yaml
