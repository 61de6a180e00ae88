import TilingConfig.Proofs.Toml.Settings
import TilingConfig.Proofs.Yaml.Settings

/-!
# Inclusion is transparent

A file that is included means what its entries would mean in the place of the directive,
and nothing is left of the directive in the settings. What the file includes in turn is
found from there as well, if it stands in the same directory.
-/

namespace TilingConfig.Document

open TilingConfig.Files

section

variable [Parsers]

/-- The file at a path holds YAML with these entries; one that holds nothing has none. -/
def HoldsYaml (view : View) (path : Path) (entries : List (Yaml.Node × Yaml.Node)) : Prop :=
  Surface.ofPath path = .yaml ∧ ∃ text node, view.read path = .ok text ∧
    Parsers.yaml text.toList = .ok node ∧
    (node = .mapping entries ∨ node = .null ∧ entries = [])

/-- The file at a path holds TOML with these entries. -/
def HoldsToml (view : View) (path : Path) (entries : List (String × Toml.Item)) : Prop :=
  Surface.ofPath path = .toml ∧ ∃ text, view.read path = .ok text ∧
    Parsers.toml text.toList = .ok entries

theorem HoldsYaml.exists_convert_eq {view : View} {path : Path}
    {entries : List (Yaml.Node × Yaml.Node)} (h : HoldsYaml view path entries) :
    ∃ text, view.read path = .ok text ∧
      convert (.ofPath path) text = Yaml.settingsOf entries := by
  obtain ⟨hsurface, text, node, htext, hnode, hentries⟩ := h
  refine ⟨text, htext, ?_⟩
  rw [hsurface, convert]
  simp only [hnode]
  rcases hentries with rfl | ⟨rfl, rfl⟩
  · rfl
  · rw [Yaml.documentSettings, Yaml.settingsOf]

theorem HoldsToml.exists_convert_eq {view : View} {path : Path}
    {entries : List (String × Toml.Item)} (h : HoldsToml view path entries) :
    ∃ text, view.read path = .ok text ∧
      convert (.ofPath path) text = Toml.settingsOf entries := by
  obtain ⟨hsurface, text, htext, hentries⟩ := h
  refine ⟨text, htext, ?_⟩
  rw [hsurface, convert]
  simp only [hentries]

/-- No text keeps an include directive among its settings, if no target of it does. -/
theorem plain_convert (surface : Surface) (text : String) :
    (convert surface text).Ensures Group.Plain Group.Plain := by
  cases surface with
  | yaml =>
    rw [convert]
    cases Parsers.yaml text.toList with
    | error fault =>
      simp only [yamlFault]
      split <;> exact .failed _ _ _
    | ok node =>
      cases node with
      | null => exact .done Group.plain_nil
      | mapping entries => exact Yaml.plain_settingsOf entries
      | _ => exact .failed _ _ _
  | toml =>
    rw [convert]
    cases Parsers.toml text.toList with
    | error fault => exact .failed _ _ _
    | ok entries => exact Toml.plain_settingsOf entries

/-- So no file does. -/
theorem Reads.plain {view : View} {room : Nat} {chain : List Components} {path : Path}
    {group : Group} {files : List Path} (h : Reads view room chain path group files) :
    group.Plain := by
  induction room generalizing chain path group files with
  | zero => exact h.elim
  | succ room ih =>
    obtain ⟨-, text, within, -, hyields, -⟩ := reads_succ_iff.1 h
    exact (plain_convert _ text).of_yields hyields fun target group files hgiven => ih hgiven

/-- To include a file is to write its entries in the place of the directive, at any depth of any
tree: the settings are the same, and so are the files that are read, but for the file itself. A
directive with nested lists means what its parts mean in order. No directive is left among the
settings of a document. -/
theorem inclusion_transparent (view : View) (source : Path) (target : String) :
    let file := resolveTarget source ⟨target⟩
    (∀ inner tree tree', HoldsYaml view file inner →
      (∀ other ∈ Yaml.targetsIn inner, resolveTarget file ⟨other⟩ = resolveTarget source ⟨other⟩) →
      Yaml.Inlines target inner tree tree' →
      SameButFor view source file (Yaml.valueOf tree) (Yaml.valueOf tree') ∧
        SameButFor view source file (Yaml.documentSettings tree) (Yaml.documentSettings tree')) ∧
    (∀ inner tree tree', HoldsToml view file inner →
      (∀ other ∈ Toml.targetsIn inner, resolveTarget file ⟨other⟩ = resolveTarget source ⟨other⟩) →
      Toml.Inlines target inner tree tree' →
      SameButFor view source file (Toml.valueOf tree) (Toml.valueOf tree') ∧
        ∀ entries entries', tree = .table entries → tree' = .table entries' →
          SameButFor view source file (Toml.settingsOf entries) (Toml.settingsOf entries')) ∧
    (∀ directive : Yaml.Node, (∀ leaf ∈ directive.leaves, leaf.leaves = [leaf]) ∧
      Yaml.includedBy directive =
        (directive.leaves.map Yaml.includedBy).foldr Conversion.join (pure [])) ∧
    (∀ directive : Toml.Item, (∀ leaf ∈ directive.leaves, leaf.leaves = [leaf]) ∧
      Toml.includedBy directive =
        (directive.leaves.map Toml.includedBy).foldr Conversion.join (pure [])) ∧
    (∀ path document, (load view path).1 = .ok document → includeName ∉ namesIn document.root) ∧
    ∀ surface origin text document, (ofText view surface origin text).1 = .ok document →
      includeName ∉ namesIn document.root := by
  intro file
  refine ⟨?_, ?_, fun directive => ⟨directive.leaves_flat, ?_⟩,
    fun directive => ⟨directive.leaves_flat, ?_⟩, ?_, ?_⟩
  · intro inner tree tree' hfile hsame htree
    obtain ⟨text, htext, hconvert⟩ := hfile.exists_convert_eq
    have hasks := Yaml.asks_settingsOf inner
    have hspliced := htree.spliced
    rw [← hconvert] at hasks
    have hvalue := hspliced.value
    have hdocument := hspliced.document
    rw [← hconvert] at hvalue hdocument
    exact ⟨hvalue.sameButFor htext hasks hsame, hdocument.sameButFor htext hasks hsame⟩
  · intro inner tree tree' hfile hsame htree
    obtain ⟨text, htext, hconvert⟩ := hfile.exists_convert_eq
    have hasks := Toml.asks_settingsOf inner
    have hspliced := htree.spliced
    rw [← hconvert] at hasks
    have hvalue := hspliced.value
    rw [← hconvert] at hvalue
    refine ⟨hvalue.sameButFor htext hasks hsame, fun entries entries' h h' => ?_⟩
    have hdocument := hspliced.document entries entries' h h'
    rw [← hconvert] at hdocument
    exact hdocument.sameButFor htext hasks hsame
  · rw [Yaml.includedBy_eq_leaves, Yaml.includedByAll_eq_foldr]
  · rw [Toml.includedBy_eq_leaves, Toml.includedByAll_eq_foldr]
  · intro path document h
    exact (load_eq_ok_iff_reads.1 h).plain
  · intro surface origin text document h
    exact (plain_convert surface text).of_yields (ofText_eq_ok_iff_yields.1 h)
      fun target group files hgiven => Reads.plain hgiven

end

open scoped Parsers

/-- A file with an include of its own stands among its entries, and is included between others. -/
theorem inclusion_transparent_between_entries :
    let text (path : Path) : Except ReadError String :=
      if path = ⟨"b.yaml"⟩ then .ok "x: 1\ninclude: c.yaml\nz: [u, v]\n"
      else if path = ⟨"c.yaml"⟩ then .ok "w: true\n"
      else .error .notFound
    let view : View := ⟨text, fun _ => false, fun _ => none⟩
    let before : List (Yaml.Node × Yaml.Node) := [(.string "a", .null), (.string "k", .integer 0)]
    let inner : List (Yaml.Node × Yaml.Node) :=
      [(.string "x", .integer 1), (.string includeName, .string "c.yaml"),
        (.string "z", .sequence [.string "u", .string "v"])]
    let after : List (Yaml.Node × Yaml.Node) := [(.string "y", .bool true)]
    let directive : Yaml.Node := .sequence [.string "b.yaml"]
    let whole := Yaml.documentSettings
      (.mapping (before ++ (.string includeName, directive) :: after))
    let spliced := Yaml.documentSettings (.mapping (before ++ (inner ++ after)))
    SameButFor view ⟨"a.yaml"⟩ ⟨"b.yaml"⟩ whole spliced ∧
      ((whole.run ⟨"a.yaml"⟩ (fetchFrom (readFile view 2) ⟨"a.yaml"⟩) .start).1.toOption.map
        fun settings => settings.map Prod.fst) = some ["k", "x", "w", "z", "y"] := by
  intro text view before inner after directive whole spliced
  have hfile : resolveTarget ⟨"a.yaml"⟩ ⟨"b.yaml"⟩ = ⟨"b.yaml"⟩ := by decide
  have hholds : HoldsYaml view (resolveTarget ⟨"a.yaml"⟩ ⟨"b.yaml"⟩) inner := by
    rw [hfile]
    exact ⟨by decide, "x: 1\ninclude: c.yaml\nz: [u, v]\n", _, rfl, rfl, Or.inl rfl⟩
  have htargets : ∀ other ∈ Yaml.targetsIn inner,
      resolveTarget (resolveTarget ⟨"a.yaml"⟩ ⟨"b.yaml"⟩) ⟨other⟩ =
        resolveTarget ⟨"a.yaml"⟩ ⟨other⟩ := by
    decide +kernel
  have hdirective : directive.leaves = [.string "b.yaml"] := rfl
  have htree : Yaml.Inlines "b.yaml" inner
      (.mapping (before ++ (.string includeName, directive) :: after))
      (.mapping (before ++ (inner ++ after))) := .directive before after hdirective
  obtain ⟨hyaml, -⟩ := inclusion_transparent view ⟨"a.yaml"⟩ "b.yaml"
  have hsame := (hyaml inner _ _ hholds htargets htree).2
  rw [hfile] at hsame
  exact ⟨hsame, by decide +kernel⟩

end TilingConfig.Document
