import TilingConfig.Log
import TilingConfig.Snapshot.Build
import TilingConfig.Text.Quoted

/-!
# Reports of a build

A build tells what it has made of every entry, in file order, up to the entry that
does not resolve, and at the end what the snapshot holds.
-/

namespace TilingConfig

open TilingConfig.Binding TilingConfig.Log TilingConfig.Text

/-- The elements up to the first that fails a test, that one included. -/
def through {α : Type} (passes : α → Bool) (items : List α) : List α :=
  items.takeWhile passes ++ (items.find? fun item => !passes item).toList

/-- Whether a result is there. -/
def succeeds {ε α : Type} (result : Except ε α) : Bool := result.toOption.isSome

/-- A rule as it is reported. -/
def Rule.report (rule : Rule) : String :=
  "Rule \x7b class: " ++ quotedOption rule.windowClass ++
    ", instance: " ++ quotedOption rule.windowInstance ++
    ", title: " ++ quotedOption rule.title ++
    ", tags: " ++ toString rule.tags.toNat ++
    ", isfloating: " ++ toString rule.isfloating ++
    ", monitor: " ++ toString rule.monitor.toInt ++ " \x7d"

/-- The report of a result at the place of its entry; an entry that does not resolve has none. -/
def resolvedReport {α : Type} (entry : Entry) (wording : α → String) :
    Except ConfigError α → Journal
  | .ok value =>
    let place := entry.part.name ++ "[" ++ toString (entry.index.getD 0) ++ "]"
    [⟨.trace, .build, place ++ ": " ++ wording value⟩]
  | .error _ => []

/-- The report of a binding descriptor that could be read. -/
def bindingReport {α : Type} (entry : Entry)
    (read : String → Except Binding.Error (Binding.Chord α)) (kind : String)
    (target : α → String) : Journal :=
  match entry.requireStr "bind", entry.binding read with
  | .ok input, .ok binding =>
    [⟨.trace, .bindings,
      "parsed " ++ kind ++ " binding '" ++ input ++ "' -> mods=" ++ binding.mods.describe ++ " " ++
        kind ++ "=" ++ target binding.target⟩]
  | _, _ => []

/-- The reports of a rule entry. -/
def ruleReports (entry : Entry) : Journal := resolvedReport entry Rule.report (ruleOf entry)

/-- The reports of a key entry. -/
def keyReports (entry : Entry) : Journal :=
  bindingReport entry readKey "key" Keysym.render ++
    resolvedReport entry
      (fun command => renderKey command.binding ++ " -> " ++ command.action.name)
      (keyCommandOf entry)

/-- The reports of a button entry. Its binding is read only when its click region is known. -/
def buttonReports (entry : Entry) : Journal :=
  (if succeeds (clickOf entry) then bindingReport entry readButton "button" Button.name else []) ++
    resolvedReport entry
      (fun command => renderButton command.binding ++ " on " ++ command.click.name ++ " -> " ++
        command.action.name)
      (buttonCommandOf entry)

/-- The reports of a repeated section, up to the first entry that does not resolve. -/
def sectionReports {α : Type} (part : Section) (build : Entry → Except ConfigError α)
    (reports : Entry → Journal) (root : Group) : Journal :=
  match entries root part with
  | .ok found => (through (fun entry => succeeds (build entry)) found).flatMap reports
  | .error _ => []

/-- The numbers of what a snapshot holds. -/
def Snapshot.summary (snapshot : Snapshot) : String :=
  toString snapshot.tags.length ++ " tags, " ++ toString snapshot.rules.length ++ " rules, " ++
    toString snapshot.keys.length ++ " keys, " ++ toString snapshot.buttons.length ++ " buttons"

/-- The sections of a build in order: whether each resolves, and its reports. -/
def buildStages (root : Group) : List (Bool × Journal) := [
  (succeeds (buildAppearance root), []),
  (succeeds (buildLayout root), []),
  (succeeds (buildTags root), []),
  (succeeds (buildRules root), sectionReports .rule ruleOf ruleReports root),
  (succeeds (buildKeys root), sectionReports .key keyCommandOf keyReports root),
  (succeeds (buildButtons root), sectionReports .button buttonCommandOf buttonReports root)]

/-- The reports of the build of a configuration. -/
def buildJournal (root : Group) : Journal :=
  (through Prod.fst (buildStages root)).flatMap Prod.snd ++
    match build root with
    | .ok snapshot => [⟨.info, .build, "config built: " ++ snapshot.summary⟩]
    | .error e => [⟨.warn, .build, "config build failed: " ++ e.message⟩]

end TilingConfig
