import TilingConfig.Files.Path

/-!
# The environment of a run

What the program takes from its surroundings besides the files: where the user
keeps configurations, and which reports are wanted.
-/

namespace TilingConfig.CommandLine

open TilingConfig.Files

/-- The surroundings of a run. -/
structure Environment where
  /-- The home directory. -/
  home : Option Path
  /-- The directory of all configurations, if it has been moved. -/
  configHome : Option Path
  /-- Which reports are wanted. -/
  logDirectives : Option String

namespace Environment

/-- The environment of some variables. A home directory without a name counts as none. -/
def ofVariables (value : String → Option String) : Environment where
  home := ((value "HOME").filter fun home => !home.isEmpty).map fun home => ⟨home⟩
  configHome := (value "XDG_CONFIG_HOME").map fun directory => ⟨directory⟩
  logDirectives := value "RUST_LOG"

/-- The directory of all configurations: the one that was moved to, if it is absolute, else the
usual one at home. -/
def configDirectory? (environment : Environment) : Option Path :=
  (environment.configHome.filter Path.isAbsolute).or
    (environment.home.map fun home => home.join ⟨".config"⟩)

/-- The directory of the user's configuration. -/
def userDirectory (environment : Environment) : Path :=
  match environment.configDirectory? with
  | some directory => directory.join ⟨"tagwm"⟩
  | none => ⟨"."⟩

/-- The user's configuration file. -/
def userFile (environment : Environment) : Path := environment.userDirectory.join ⟨"tagwm.yaml"⟩

end Environment

end TilingConfig.CommandLine
