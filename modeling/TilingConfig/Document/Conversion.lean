import TilingConfig.Document.Reading

/-!
# Conversions

A tree is turned into settings without any file at hand. Where the settings of
another file are needed the conversion stops, names the target, and goes on with
whatever settings it is given. What a text asks for is so told apart from how the
files are found and read.
-/

namespace TilingConfig.Document

open TilingConfig.Files

/-- A conversion of a text, up to the next target that it includes. -/
inductive Conversion (α : Type) where
  /-- The conversion has a result. -/
  | done (result : α)
  /-- The text is at fault, at this line and column. -/
  | failed (line column : Nat) (fault : SyntaxFault)
  /-- The settings of a target are needed to go on. -/
  | included (target : String) (next : Group → Conversion α)

namespace Conversion

/-- Go on with the result of a conversion. -/
protected def bind {α β : Type} : Conversion α → (α → Conversion β) → Conversion β
  | done result, next => next result
  | failed line column fault, _ => failed line column fault
  | included target rest, next => included target fun group => (rest group).bind next

instance : Monad Conversion where
  pure := done
  bind := Conversion.bind

/-- The whole text is at fault. -/
def fault {α : Type} (fault : SyntaxFault) : Conversion α := failed 0 0 fault

/-- The settings of a target. -/
def ofTarget (target : String) : Conversion Group := included target done

/-- Carry a conversion of the file `source` through, with the included settings from `fetch`. -/
def run {α : Type} (source : Path) (fetch : String → Reading Group) : Conversion α → Reading α
  | done result, loader => (.ok result, loader)
  | failed line column fault, loader => (.error (.badSyntax source line column fault), loader)
  | included target next, loader =>
    match fetch target loader with
    | (.ok group, after) => (next group).run source fetch after
    | (.error e, after) => (.error e, after)

end Conversion

end TilingConfig.Document
