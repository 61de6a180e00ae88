import TilingConfig.Proofs.Document.Inclusion
import TilingConfig.Proofs.Lifecycle
import TilingConfig.Proofs.Snapshot.Field

/-!
# Sections that an included file gives as well

A section that is given once is taken from the last group of its name, as a whole. So where a
file and one that it includes both give it, only the group that stands later counts: the
other one is as if it were not there, and its fields have their defaults.
-/

namespace TilingConfig

open TilingConfig.Document TilingConfig.Files

section

variable [Parsers]

/-- The text of a file includes a target among its topmost settings, with others before and
after it. -/
inductive IncludesBetween (view : View) (path : Path) (target : String) :
    Conversion Group → Conversion Group → Prop
  | yaml {before after : List (Yaml.Node × Yaml.Node)} {directive : Yaml.Node}
      (holds : HoldsYaml view path (before ++ (.string includeName, directive) :: after))
      (single : directive.leaves = [.string target]) :
      IncludesBetween view path target (Yaml.settingsOf before) (Yaml.settingsOf after)
  | toml {before after : List (String × Toml.Item)} {directive : Toml.Item}
      (holds : HoldsToml view path (before ++ (includeName, directive) :: after))
      (single : directive.leaves = [.string target]) :
      IncludesBetween view path target (Toml.settingsOf before) (Toml.settingsOf after)

variable {view : View} {path : Path} {target : String} {before after : Conversion Group}

/-- The text is converted to the settings before, those of the target, and the settings after. -/
theorem IncludesBetween.exists_convert_eq (h : IncludesBetween view path target before after) :
    ∃ text, view.read path = .ok text ∧
      convert (.ofPath path) text = before.join ((Conversion.ofTarget target).join after) := by
  cases h with
  | yaml holds single =>
    obtain ⟨text, htext, hconvert⟩ := holds.exists_convert_eq
    rw [Yaml.settingsOf_append, Yaml.settingsOf_directive single] at hconvert
    exact ⟨text, htext, hconvert⟩
  | toml holds single =>
    obtain ⟨text, htext, hconvert⟩ := holds.exists_convert_eq
    rw [Toml.settingsOf_append, Toml.settingsOf_directive single] at hconvert
    exact ⟨text, htext, hconvert⟩

/-- The settings before or after a directive, as they are read in the main file. -/
def ReadsAs (view : View) (path : Path) (settings : Conversion Group) (group : Group) : Prop :=
  ∃ files, settings.Yields (Given view includeDepth [view.identity path] path) group files

/-- The settings of a file that includes another are its own with those of the other between. -/
theorem IncludesBetween.exists_root (h : IncludesBetween view path target before after)
    {document : Document} (hload : (Document.load view path).1 = .ok document) :
    ∃ front rear : Group, ∃ included : Document,
      ReadsAs view path before front ∧ ReadsAs view path after rear ∧
        (Document.load view (resolveTarget path ⟨target⟩)).1 = .ok included ∧
        document.root = front ++ (included.root ++ rear) := by
  obtain ⟨text, htext, hconvert⟩ := h.exists_convert_eq
  obtain ⟨-, text', within, htext', hyields, -⟩ := reads_succ_iff.1 (load_eq_ok_iff_reads.1 hload)
  obtain rfl := Except.ok.inj (htext.symm.trans htext')
  rw [hconvert] at hyields
  obtain ⟨front, more, _, _, hfront, hmore, hroot⟩ := hyields.exists_append
  obtain ⟨inner, rear, files, _, hinner, hrear, rfl⟩ := hmore.exists_append
  rw [Conversion.ofTarget, Conversion.yields_included_iff] at hinner
  obtain ⟨group, files', _, hgiven, hdone, -⟩ := hinner
  cases hdone
  -- The target is read one level deeper, and with the main file on the chain.
  have hreads := Reads.mono hgiven (Nat.le_succ includeDepth) (List.nil_subset _)
  refine ⟨front, rear, ⟨inner, files'⟩, ⟨_, hfront⟩, ⟨_, hrear⟩, ?_, hroot⟩
  exact load_eq_ok_iff_reads.2 hreads

/-- Where a file and one that it includes both give the appearance or the layout settings, the group
that stands later counts as a whole. What only the included file sets is in the snapshot exactly if
the file has no group of its own behind the directive, and what only the file sets exactly if
it has one there, apart from values that are the defaults anyway. -/
theorem last_group_counts_whole (hmain : IncludesBetween view path target before after)
    {load : Loaded} (hload : Loaded.ofFile view path = .ok load) :
    ∃ front rear : Group, ∃ included : Document,
      ReadsAs view path before front ∧ ReadsAs view path after rear ∧
      (Document.load view (resolveTarget path ⟨target⟩)).1 = .ok included ∧
      ∀ (setting : Setting) (own inner : Group),
        Group.get? (front ++ rear) setting.part.name = some (.group own) →
        included.root.get? setting.part.name = some (.group inner) →
        (∀ value, setting.given? inner = some value → setting.given? own = none →
          (setting.meaning? value = some (setting.field load.snapshot) ↔
            rear.get? setting.part.name = none ∨ setting.meaning? value = some setting.default)) ∧
        ∀ value, setting.given? own = some value → setting.given? inner = none →
          (setting.meaning? value = some (setting.field load.snapshot) ↔
            rear.get? setting.part.name ≠ none ∨
              setting.meaning? value = some setting.default) := by
  obtain ⟨document, hdocument, hbuild, -, -⟩ := Loaded.ofFile_eq_ok_iff.1 hload
  obtain ⟨front, rear, included, hfront, hrear, hincluded, hroot⟩ := hmain.exists_root hdocument
  refine ⟨front, rear, included, hfront, hrear, hincluded, fun setting own inner hown hinner => ?_⟩
  rw [Group.get?_append] at hown
  have hget : document.root.get? setting.part.name =
      (rear.get? setting.part.name).or (some (.group inner)) := by
    rw [hroot, Group.get?_append, Group.get?_append, hinner]
    cases rear.get? setting.part.name <;> rfl
  cases hlast : rear.get? setting.part.name with
  | none =>
    rw [hlast, Option.none_or] at hget
    have hholds := Setting.holds_of_build hbuild hget
    constructor
    · intro value hvalue _
      simp [hholds.of_some hvalue]
    · intro value _ hnone
      simp [hholds.of_none hnone]
  | some last =>
    rw [hlast, Option.some_or] at hget hown
    rw [hown] at hget
    have hholds := Setting.holds_of_build hbuild hget
    constructor
    · intro value _ hnone
      simp [hholds.of_none hnone]
    · intro value hvalue _
      simp [hholds.of_some hvalue]

end

open scoped Parsers

/-- The group of the file stands before the directive: what the included file sets is in the
snapshot, and what only the file sets is not. -/
theorem last_group_counts_whole_included :
    let view : View := ⟨fun path =>
      if path = ⟨"main.yaml"⟩ then .ok "appearance: {borderpx: 3}\ninclude: colors.yaml\n"
      else if path = ⟨"colors.yaml"⟩ then .ok "appearance: {gappx: 9}\n"
      else .error .notFound, fun _ => true, fun _ => none⟩
    ∃ load, Loaded.ofFile view ⟨"main.yaml"⟩ = .ok load ∧
      Setting.gappx.field load.snapshot = .number 9 ∧
      Setting.borderpx.field load.snapshot ≠ .number 3 := by
  intro view
  have hholds : HoldsYaml view ⟨"main.yaml"⟩
      ([(.string "appearance", .mapping [(.string "borderpx", .integer 3)])] ++
        (.string includeName, .string "colors.yaml") :: []) :=
    ⟨by decide, _, _, rfl, rfl, Or.inl rfl⟩
  have hsingle : (Yaml.Node.string "colors.yaml").leaves = [.string "colors.yaml"] := by
    simp [Yaml.Node.leaves]
  have hsources : (Loaded.ofFile view ⟨"main.yaml"⟩).toOption.map Loaded.sources =
      some [⟨"main.yaml"⟩, ⟨"colors.yaml"⟩] := by decide +kernel
  obtain ⟨load, hofFile, -⟩ := map_toOption_eq_some_iff.1 hsources
  obtain ⟨front, rear, included, ⟨_, hfront⟩, ⟨_, hrear⟩, hincluded, hfields⟩ :=
    last_group_counts_whole (.yaml hholds hsingle) hofFile
  obtain rfl : [("appearance", Value.group [("borderpx", .int 3)])] = front := by
    cases hfront
    rfl
  cases hrear
  obtain rfl : ⟨[("appearance", .group [("gappx", .int 9)])], [⟨"colors.yaml"⟩]⟩ = included :=
    Except.ok.inj hincluded
  refine ⟨load, hofFile, ?_, ?_⟩
  · have hgappx := (hfields .gappx _ _ rfl rfl).1 (.int 9) rfl rfl
    exact (Option.some.inj (hgappx.2 (Or.inl rfl))).symm
  · have hborderpx := (hfields .borderpx _ _ rfl rfl).2 (.int 3) rfl rfl
    intro hfield
    rw [hfield] at hborderpx
    rcases hborderpx.1 rfl with hrear | hdefault
    · exact hrear rfl
    · revert hdefault
      decide

/-- The documented order: the main file includes its colours, and an appearance of its own
follows. -/
def documentedOrder : View where
  read path :=
    if path = ⟨"main.yaml"⟩ then .ok "include: colors.yaml\nappearance: {borderpx: 1}\n"
    else if path = ⟨"colors.yaml"⟩ then .ok "appearance: {gappx: 9}\n"
    else .error .notFound
  exists? path := path = ⟨"main.yaml"⟩ || path = ⟨"colors.yaml"⟩
  canonical? _ := none

/-- The gap that the included file sets is lost: the one in the snapshot is built in. -/
theorem included_field_lost :
    (Document.load documentedOrder ⟨"main.yaml"⟩).1 = .ok
        ⟨[("appearance", .group [("gappx", .int 9)]),
          ("appearance", .group [("borderpx", .int 1)])], [⟨"main.yaml"⟩, ⟨"colors.yaml"⟩]⟩ ∧
      ∃ load, Loaded.ofFile documentedOrder ⟨"main.yaml"⟩ = .ok load ∧
        Setting.gappx.field load.snapshot = Setting.gappx.default ∧
        Setting.gappx.field load.snapshot ≠ .number 9 := by
  have hgap : (Loaded.ofFile documentedOrder ⟨"main.yaml"⟩).toOption.map
      (fun load => load.snapshot.appearance.gappx) = some 4 := by decide +kernel
  obtain ⟨load, hload, hgappx⟩ := map_toOption_eq_some_iff.1 hgap
  refine ⟨rfl, load, hload, ?_, ?_⟩
  · rw [Setting.field, hgappx]
    rfl
  · rw [Setting.field, hgappx]
    decide

end TilingConfig
