import TilingConfig.CoreInstances

/-!
# Lines and columns

A place in a text is given by the bytes before it, in UTF-8. Its line is told by
the line feeds before it, and its column by the characters since the last of
them; both count from one.
-/

namespace TilingConfig.Text

open TilingConfig.CoreInstances

/-- The size of characters in UTF-8. -/
def byteCount (cs : List Char) : Nat := (cs.map Char.utf8Size).sum

/-- The characters that take up the first `offset` bytes, if a character ends there. -/
def takeBytes? : Nat → List Char → Option (List Char)
  | 0, _ => some []
  | _ + 1, [] => none
  | offset + 1, c :: cs =>
    if c.utf8Size ≤ offset + 1 then (takeBytes? (offset + 1 - c.utf8Size) cs).map (c :: ·) else none

/-- The line and column behind the given characters. -/
def endPosition (before : List Char) : Nat × Nat :=
  (before.count '\n' + 1, (before.reverse.takeWhile (· != '\n')).length + 1)

/-- The line and column of a place. A place that is no boundary of characters stands for the end of
the text. -/
def lineColumn (text : List Char) (offset : Nat) : Nat × Nat :=
  endPosition ((takeBytes? offset text).getD text)

end TilingConfig.Text
