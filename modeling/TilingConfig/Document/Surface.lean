import TilingConfig.Files.Path

/-!
# Surface syntaxes

A configuration is written in YAML or in TOML; the name of a file tells which.
-/

namespace TilingConfig.Document

open TilingConfig.Files

/-- A surface syntax. -/
inductive Surface where
  | yaml
  | toml
  deriving DecidableEq, Repr

/-- The surface syntax of a file: TOML if its name ends so, else YAML. -/
def Surface.ofPath (path : Path) : Surface :=
  if path.extension? = some "toml" then .toml else .yaml

end TilingConfig.Document
