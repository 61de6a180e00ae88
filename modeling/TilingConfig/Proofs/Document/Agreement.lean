import TilingConfig.Document.Load
import TilingConfig.Proofs.Document.Conversion

/-!
# One tree in both surface syntaxes

A tree of values can be written in either surface syntax. Both conversions of it ask for
the same targets in the same order and end in the same way; at most the wording of a
fault differs. So the settings, the files and the chain never depend on the syntax.
-/

namespace TilingConfig

open TilingConfig.Document TilingConfig.Files TilingConfig.Number

namespace Yaml

mutual

/-- A value as a node. -/
def Node.ofValue : Value → Node
  | .bool b => .bool b
  | .int i => .integer i.toInt
  | .float x => .float x
  | .str s => .string s
  | .array items => .sequence (Node.ofValues items)
  | .group settings => .mapping (Node.ofSettings settings)

/-- The values of a list as nodes. -/
def Node.ofValues : List Value → List Node
  | [] => []
  | item :: rest => .ofValue item :: Node.ofValues rest

/-- Settings as the entries of a mapping. -/
def Node.ofSettings : List (String × Value) → List (Node × Node)
  | [] => []
  | (name, value) :: rest => (.string name, .ofValue value) :: Node.ofSettings rest

end

/-- A signed word is read as itself. -/
theorem wholeValue_toInt (i : Int64) : wholeValue i.toInt = .int i := by
  rw [wholeValue, if_pos ⟨i.minValue_le_toInt, i.toInt_le⟩, Int64.ofInt_toInt]

end Yaml

namespace Toml

mutual

/-- A value as an item. -/
def Item.ofValue : Value → Item
  | .bool b => .boolean b
  | .int i => .integer i
  | .float x => .float x
  | .str s => .string s
  | .array items => .array (Item.ofValues items)
  | .group settings => .table (Item.ofSettings settings)

/-- The values of a list as items. -/
def Item.ofValues : List Value → List Item
  | [] => []
  | item :: rest => .ofValue item :: Item.ofValues rest

/-- Settings as the entries of a table. -/
def Item.ofSettings : List (String × Value) → List (String × Item)
  | [] => []
  | (name, value) :: rest => (name, .ofValue value) :: Item.ofSettings rest

end

end Toml

/-- The errors are the same but for the wording of a fault of the text. -/
def ConfigError.SameButWording : ConfigError → ConfigError → Prop
  | .badSyntax path line column _, .badSyntax path' line' column' _ =>
    path = path' ∧ line = line' ∧ column = column'
  | e, e' => e = e'

theorem ConfigError.SameButWording.refl (e : ConfigError) : e.SameButWording e := by
  cases e with
  | badSyntax path line column fault => exact ⟨rfl, rfl, rfl⟩
  | _ => rfl

namespace Document

/-- Both are results and the same, or both are errors and the same but for the wording. -/
inductive SameOutcome {α : Type} : Except ConfigError α → Except ConfigError α → Prop where
  | ok (result : α) : SameOutcome (.ok result) (.ok result)
  | error {e e' : ConfigError} (h : e.SameButWording e') : SameOutcome (.error e) (.error e')

theorem SameOutcome.refl {α : Type} (result : Except ConfigError α) :
    SameOutcome result result := by
  cases result with
  | ok result => exact .ok result
  | error e => exact .error (.refl e)

namespace Conversion

variable {α β γ δ : Type}

/-- The conversions ask for the same targets, whatever these give, and end with related results or
with faults at the same place. -/
inductive Alike (related : α → β → Prop) : Conversion α → Conversion β → Prop where
  | done {result : α} {result' : β} (h : related result result') :
      Alike related (done result) (done result')
  | failed (line column : Nat) (fault fault' : SyntaxFault) :
      Alike related (failed line column fault) (failed line column fault')
  | included {target : String} {next : Group → Conversion α} {next' : Group → Conversion β}
      (hnext : ∀ group, Alike related (next group) (next' group)) :
      Alike related (included target next) (included target next')

theorem Alike.bind {related : α → β → Prop} {related' : γ → δ → Prop}
    {conversion : Conversion α} {conversion' : Conversion β} {next : α → Conversion γ}
    {next' : β → Conversion δ} (h : Alike related conversion conversion')
    (hnext : ∀ result result', related result result' →
      Alike related' (next result) (next' result')) :
    Alike related' (conversion >>= next) (conversion' >>= next') := by
  induction h with
  | done h => exact hnext _ _ h
  | failed line column fault fault' => exact .failed line column fault fault'
  | included _ ih => exact .included ih

/-- Conversions that are alike come to the same end and leave the same loader behind. -/
theorem Alike.run {conversion conversion' : Conversion α} (h : Alike Eq conversion conversion')
    (source : Path) (fetch : String → Reading Group) (loader : Loader) :
    SameOutcome (conversion.run source fetch loader).1 (conversion'.run source fetch loader).1 ∧
      (conversion.run source fetch loader).2 = (conversion'.run source fetch loader).2 := by
  induction h generalizing loader with
  | done h =>
    subst h
    exact ⟨.ok _, rfl⟩
  | failed line column fault fault' => exact ⟨.error ⟨rfl, rfl, rfl⟩, rfl⟩
  | @included target next next' _ ih =>
    rw [Conversion.run, Conversion.run]
    rcases fetch target loader with ⟨e | group, mid⟩
    · exact ⟨.refl _, rfl⟩
    · exact ih group mid

end Conversion

open Conversion

mutual

private theorem alike_includedBy : ∀ value : Value,
    Alike Eq (Yaml.includedBy (.ofValue value)) (Toml.includedBy (.ofValue value))
  | .str target => by
    rw [Yaml.Node.ofValue, Toml.Item.ofValue, Yaml.includedBy, Toml.includedBy]
    exact .included fun group => .done rfl
  | .array items => by
    rw [Yaml.Node.ofValue, Toml.Item.ofValue, Yaml.includedBy, Toml.includedBy]
    exact alike_includedByAll items
  | .bool _ | .int _ | .float _ | .group _ => by
    rw [Yaml.Node.ofValue, Toml.Item.ofValue, Yaml.includedBy, Toml.includedBy]
    · exact .failed _ _ _ _
    all_goals simp

private theorem alike_includedByAll : ∀ items : List Value,
    Alike Eq (Yaml.includedByAll (Yaml.Node.ofValues items))
      (Toml.includedByAll (Toml.Item.ofValues items))
  | [] => by
    rw [Yaml.Node.ofValues, Toml.Item.ofValues, Yaml.includedByAll, Toml.includedByAll]
    exact .done rfl
  | item :: rest => by
    rw [Yaml.Node.ofValues, Toml.Item.ofValues, Yaml.includedByAll, Toml.includedByAll]
    refine (alike_includedBy item).bind fun first first' h => ?_
    refine (alike_includedByAll rest).bind fun more more' h' => ?_
    exact .done (by rw [h, h'])

end

mutual

/-- A value has one form in both syntaxes; only in one of them could it be left out. -/
private theorem alike_valueOf : ∀ value : Value,
    Alike (fun found found' => found = some found') (Yaml.valueOf (.ofValue value))
      (Toml.valueOf (.ofValue value))
  | .array items => by
    rw [Yaml.Node.ofValue, Toml.Item.ofValue, Yaml.valueOf, Toml.valueOf]
    exact (alike_valuesOf items).bind fun values values' h => .done (by rw [h])
  | .group settings => by
    rw [Yaml.Node.ofValue, Toml.Item.ofValue, Yaml.valueOf, Toml.valueOf]
    exact (alike_settingsOf settings).bind fun group group' h => .done (by rw [h])
  | .int i => by
    rw [Yaml.Node.ofValue, Toml.Item.ofValue, Yaml.valueOf, Toml.valueOf, Yaml.wholeValue_toInt]
    exact .done rfl
  | .bool _ | .float _ | .str _ => by
    rw [Yaml.Node.ofValue, Toml.Item.ofValue, Yaml.valueOf, Toml.valueOf]
    exact .done rfl

private theorem alike_valuesOf : ∀ items : List Value,
    Alike Eq (Yaml.valuesOf (Yaml.Node.ofValues items)) (Toml.valuesOf (Toml.Item.ofValues items))
  | [] => by
    rw [Yaml.Node.ofValues, Toml.Item.ofValues, Yaml.valuesOf, Toml.valuesOf]
    exact .done rfl
  | item :: rest => by
    rw [Yaml.Node.ofValues, Toml.Item.ofValues, Yaml.valuesOf, Toml.valuesOf]
    refine (alike_valueOf item).bind fun value value' h => ?_
    refine (alike_valuesOf rest).bind fun values values' h' => ?_
    exact .done (by rw [h, h', Option.toList_some, List.singleton_append])

/-- A table is converted alike in both syntaxes, and so is all that stands in it. -/
theorem alike_settingsOf : ∀ settings : List (String × Value),
    Alike Eq (Yaml.settingsOf (Yaml.Node.ofSettings settings))
      (Toml.settingsOf (Toml.Item.ofSettings settings))
  | [] => by
    rw [Yaml.Node.ofSettings, Toml.Item.ofSettings, Yaml.settingsOf, Toml.settingsOf]
    exact .done rfl
  | (name, value) :: rest => by
    rw [Yaml.Node.ofSettings, Toml.Item.ofSettings, Yaml.settingsOf, Toml.settingsOf]
    by_cases hname : name = includeName
    · rw [if_pos hname, if_pos hname]
      refine (alike_includedBy value).bind fun included included' h => ?_
      refine (alike_settingsOf rest).bind fun settings settings' h' => ?_
      exact .done (by rw [h, h'])
    · rw [if_neg hname, if_neg hname]
      refine (alike_valueOf value).bind fun found found' h => ?_
      refine (alike_settingsOf rest).bind fun settings settings' h' => ?_
      exact .done (by rw [h, h', Option.toList_some, List.map_singleton, List.singleton_append])

end

variable [Parsers]

/-- A tree of settings is read in the same way from both surface syntaxes, wherever it stands and
whatever has been read before: with the same settings, or with errors that are the same but for
the wording of a fault, and with the same loader in the end. -/
theorem surfaces_agree (view : View) (room : Nat) (source : Path) (loader : Loader)
    (tree : Group) :
    let fetch := fetchFrom (readFile view room) source
    let yaml :=
      (Yaml.documentSettings (.mapping (Yaml.Node.ofSettings tree))).run source fetch loader
    let toml := (Toml.settingsOf (Toml.Item.ofSettings tree)).run source fetch loader
    SameOutcome yaml.1 toml.1 ∧ yaml.2 = toml.2 := by
  intro fetch yaml toml
  exact (alike_settingsOf tree).run source fetch loader

end Document

end TilingConfig
