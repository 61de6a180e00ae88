import Mathlib.Data.List.Nodup
import TilingConfig.Proofs.Document.Sources
import TilingConfig.Proofs.Document.Success
import TilingConfig.Proofs.Files.Resolution
import TilingConfig.Proofs.Watch.Silence

/-!
# The watched files

A watcher keeps the canonical paths of the files that it is given, each once. After a load
that has succeeded all files of the snapshot are there, so they can be watched, and a watcher
is replaced just if it watches anything else than these.
-/

namespace TilingConfig

open TilingConfig.Files

namespace Lifecycle

section

variable [Parsers]

/-- A load has just succeeded, and the life comes of it. -/
inductive JustLoaded (view : View) : Lifecycle → Prop
  | first {path : Path} {life : Lifecycle} (h : ofFile view path = .ok life) : JustLoaded view life
  | later {before life : Lifecycle} {request : Request}
      (h : before.serve view request = (.ok (), life)) : JustLoaded view life

theorem JustLoaded.exists_shows {view : View} {life : Lifecycle} (h : life.JustLoaded view) :
    ∃ path load, Loaded.ofFile view path = .ok load ∧ life.Shows load := by
  cases h with
  | first h => exact ⟨_, exists_shows_of_ofFile h⟩
  | @later before _ request h =>
    rcases serve_cases before view request with ⟨e, hserve⟩ | ⟨path, load, hload, hserve⟩
    · cases h.symm.trans hserve
    · obtain rfl := (Prod.mk.inj (h.symm.trans hserve)).2
      exact ⟨path, load, hload, shows_publish before load⟩

/-- There are sources after a load that has just succeeded, and all of them can be read. -/
theorem JustLoaded.exists_text {view : View} {life : Lifecycle} (h : life.JustLoaded view) :
    life.sources ≠ [] ∧ ∀ source ∈ life.sources, ∃ text, view.read source = .ok text := by
  obtain ⟨path, load, hload, hshows⟩ := h.exists_shows
  rw [hshows.sources]
  refine ⟨fun hnil => ?_, ?_⟩
  · have hhead := Loaded.sources_head? hload
    rw [hnil] at hhead
    cases hhead
  · obtain ⟨document, hdocument, -, -, hfiles⟩ := Loaded.ofFile_eq_ok_iff.1 hload
    rw [hfiles]
    exact (Document.load_eq_ok_iff_reads.1 hdocument).exists_text

end

end Lifecycle

namespace Watch

variable {view : View} {paths files : List Path} {delay : Nat} {watcher : Watcher}

/-! ## Lists of canonical paths -/

/-- The paths are names from the root. -/
def AreNormal (files : List Path) : Prop :=
  ∀ file ∈ files, ∃ place, IsPlain place ∧ file = .ofNames place

/-- Paths that are names from the root can be told from each other by their names. -/
theorem AreNormal.components_inj (h : AreNormal files) {file other : Path} (hfile : file ∈ files)
    (hother : other ∈ files) : file.components = other.components ↔ file = other := by
  obtain ⟨place, hplain, rfl⟩ := h file hfile
  obtain ⟨place', hplain', rfl⟩ := h other hother
  rw [Path.components_ofNames hplain, Path.components_ofNames hplain',
    Path.ofNames_inj hplain hplain']
  simp

theorem isListed_iff {path : Path} :
    isListed files path = true ↔ path.components ∈ files.map Path.components := by
  simp [isListed]

theorem sameFiles_iff {a b : List Path} : sameFiles a b = true ↔
    ∀ file, file ∈ a.map Path.components ↔ file ∈ b.map Path.components := by
  simp only [sameFiles, Bool.and_eq_true, List.all_eq_true, isListed_iff]
  constructor
  · rintro ⟨hab, hba⟩ file
    exact ⟨fun h => List.forall_mem_map.2 hab file h, fun h => List.forall_mem_map.2 hba file h⟩
  · intro h
    exact ⟨fun path hpath => (h _).1 (List.mem_map_of_mem hpath),
      fun path hpath => (h _).2 (List.mem_map_of_mem hpath)⟩

theorem eraseDups_concat (files : List Path) (file : Path) :
    (files ++ [file]).eraseDups =
      if file ∈ files then files.eraseDups else files.eraseDups ++ [file] := by
  rw [List.eraseDups_append]
  by_cases h : file ∈ files
  · simp [List.removeAll, h]
  · simp [List.removeAll, h, List.eraseDups_cons]

/-- Put one after the other, canonical paths are listed in the order of first appearance. -/
theorem foldl_addNew (h : AreNormal files) : files.foldl addNew [] = files.eraseDups := by
  induction files using List.reverseRecOn with
  | nil => rfl
  | append_singleton files file ih =>
    have hlisted : isListed files.eraseDups file = true ↔ file ∈ files := by
      rw [isListed_iff, List.mem_map]
      constructor
      · rintro ⟨other, hother, hsame⟩
        have hmem := List.mem_eraseDups.1 hother
        rwa [← (h.components_inj (by simp [hmem]) (by simp)).1 hsame]
      · exact fun hfile => ⟨file, List.mem_eraseDups.2 hfile, rfl⟩
    have hfront : AreNormal files := fun other hother => h other (List.mem_append_left _ hother)
    rw [List.foldl_append, List.foldl_cons, List.foldl_nil, ih hfront, eraseDups_concat, addNew]
    simp only [hlisted]

theorem nodup_eraseDups (files : List Path) : files.eraseDups.Nodup := by
  induction files using List.reverseRecOn with
  | nil => exact List.nodup_nil
  | append_singleton files file ih =>
    rw [eraseDups_concat]
    split
    · exact ih
    · next h =>
      have hfresh : file ∉ files.eraseDups := fun hmem => h (List.mem_eraseDups.1 hmem)
      exact (List.perm_append_singleton file _).nodup_iff.2 (List.nodup_cons.2 ⟨hfresh, ih⟩)

/-! ## The start of a watch -/

theorem canonicalFiles_eq_ok_iff {result : List Path} :
    canonicalFiles view paths = .ok result ↔
      (∀ path ∈ paths, view.exists? path = true) ∧
        result = (paths.map view.canonical).foldl addNew [] := by
  rw [canonicalFiles]
  split
  · next missing hmissing =>
    have hnot := List.find?_some hmissing
    simp only [reduceCtorEq, false_iff, not_and]
    intro hall
    rw [hall missing (List.mem_of_find?_eq_some hmissing)] at hnot
    cases hnot
  · next hnone =>
    have hall : ∀ path ∈ paths, view.exists? path = true := by simpa using hnone
    rw [Except.ok.injEq, eq_comm]
    exact ⟨fun h => ⟨hall, h⟩, fun h => h.2⟩

/-- A watch starts if there are paths, all of them lead to something, and each of these is in a
directory. Nothing has happened yet. -/
theorem ofPaths_eq_ok_iff :
    Watcher.ofPaths view paths delay = .ok watcher ↔
      paths ≠ [] ∧ (∀ path ∈ paths, view.exists? path = true) ∧
        (∀ file ∈ (paths.map view.canonical).foldl addNew [], file.parent?.isSome = true) ∧
        watcher = ⟨⟨(paths.map view.canonical).foldl addNew [], delay, none⟩, []⟩ := by
  rw [Watcher.ofPaths]
  by_cases hpaths : paths = []
  · subst hpaths
    refine iff_of_false (fun h => ?_) fun h => h.1 rfl
    cases h
  · have hsome : paths.isEmpty = false := List.isEmpty_eq_false_iff.2 hpaths
    simp only [hsome, Bool.false_eq_true, if_false, ne_eq, hpaths, not_false_eq_true, true_and]
    refine bind_eq_ok_iff.trans ?_
    simp only [canonicalFiles_eq_ok_iff, and_assoc, exists_and_left, exists_eq_left]
    refine and_congr_right fun _ => ?_
    split
    · next file hfile =>
      have hfound := List.find?_some hfile
      have hnone := Option.isNone_iff_eq_none.1 hfound
      refine iff_of_false (fun h => ?_) fun h => ?_
      · cases h
      · have hparent := h.1 file (List.mem_of_find?_eq_some hfile)
        rw [hnone] at hparent
        cases hparent
    · next hnone =>
      have hparents : ∀ file ∈ (paths.map view.canonical).foldl addNew [],
          file.parent?.isSome = true := by
        simpa [Option.isSome_iff_ne_none] using hnone
      rw [Except.ok.injEq, eq_comm]
      exact ⟨fun h => ⟨hparents, h⟩, fun h => h.2⟩

/-- The canonical paths of things that are there. -/
theorem mem_map_canonical_iff (hview : view.Lawful)
    (hthere : ∀ path ∈ paths, view.exists? path = true) {file : Path} :
    file ∈ paths.map view.canonical ↔ ∃ path ∈ paths, view.canonical? path = some file := by
  rw [List.mem_map]
  refine exists_congr fun path => and_congr_right fun hpath => ?_
  obtain ⟨canonical, hcanonical⟩ := (hview.exists_iff path).1 (hthere path hpath)
  rw [View.canonical, hcanonical, Option.getD_some, Option.some.injEq]

theorem areNormal_map_canonical (hview : view.Lawful)
    (hthere : ∀ path ∈ paths, view.exists? path = true) :
    AreNormal (paths.map view.canonical) := by
  intro file hfile
  obtain ⟨path, -, hcanonical⟩ := (mem_map_canonical_iff hview hthere).1 hfile
  exact hview.plain_of_canonical path file hcanonical

/-- In a lawful view, a new watcher watches the canonical paths in the order of first appearance. -/
theorem ofPaths_eq_ok (hview : view.Lawful) (h : Watcher.ofPaths view paths delay = .ok watcher) :
    (∀ path ∈ paths, view.exists? path = true) ∧
      watcher = ⟨⟨(paths.map view.canonical).eraseDups, delay, none⟩, []⟩ := by
  obtain ⟨-, hthere, -, rfl⟩ := ofPaths_eq_ok_iff.1 h
  rw [foldl_addNew (areNormal_map_canonical hview hthere)]
  exact ⟨hthere, rfl⟩

namespace Watcher

/-! ## Any watcher -/

/-- A watcher that has been started at some time, and has been told and asked things since. -/
inductive Reachable : Watcher → Prop
  | ofPaths {view : View} {paths : List Path} {delay : Nat} {watcher : Watcher}
      (hview : view.Lawful) (h : Watcher.ofPaths view paths delay = .ok watcher) :
      Reachable watcher
  | take {watcher : Watcher} (arrival : Arrival) (h : Reachable watcher) :
      Reachable (watcher.take arrival)
  | next {watcher : Watcher} (h : Reachable watcher) : Reachable watcher.next.2

@[simp] theorem files_take (arrival : Arrival) : (watcher.take arrival).files = watcher.files :=
  Handler.files_handle arrival

/-- Whatever happens, a watcher keeps to its files: canonical paths, each once. -/
theorem Reachable.areNormal_nodup (h : watcher.Reachable) :
    AreNormal watcher.files ∧ watcher.files.Nodup := by
  induction h with
  | ofPaths hview h =>
    obtain ⟨hthere, rfl⟩ := ofPaths_eq_ok hview h
    refine ⟨fun file hfile => ?_, nodup_eraseDups _⟩
    exact areNormal_map_canonical hview hthere file (List.mem_eraseDups.1 hfile)
  | take arrival _ ih => rwa [files_take]
  | next _ ih => exact ih

/-! ## The files of a snapshot -/

/-- The watched files are those that the paths lead to. -/
def Covers (watcher : Watcher) (view : View) (paths : List Path) : Prop :=
  ∀ file, file ∈ watcher.files ↔ ∃ path ∈ paths, view.canonical? path = some file

theorem watches_iff : watcher.watches view paths = true ↔
    ∀ file, file ∈ paths.map view.identity ↔ file ∈ watcher.files.map Path.components := by
  rw [watches, sameFiles_iff, List.map_map]
  rfl

/-- A watcher that covers some paths watches whatever names the same files. -/
theorem Covers.watches_iff {sources : List Path} (h : watcher.Covers view sources)
    (hview : view.Lawful) (hthere : ∀ source ∈ sources, view.exists? source = true) :
    watcher.watches view paths = true ↔
      ∀ file, file ∈ paths.map view.identity ↔ file ∈ sources.map view.identity := by
  have hfiles (file : Components) :
      file ∈ watcher.files.map Path.components ↔ file ∈ sources.map view.identity := by
    have hsources : sources.map view.identity = (sources.map view.canonical).map Path.components :=
      (List.map_map).symm
    rw [hsources, List.mem_map, List.mem_map]
    simp only [h _, ← mem_map_canonical_iff hview hthere]
  rw [Watcher.watches_iff]
  simp only [hfiles]

/-- The comparison of a watcher with paths that are there is exact. -/
theorem Reachable.watches_iff_covers (hwatcher : watcher.Reachable) (hview : view.Lawful)
    (hthere : ∀ path ∈ paths, view.exists? path = true) :
    watcher.watches view paths = true ↔ watcher.Covers view paths := by
  constructor
  · intro h file
    have hnormal : AreNormal (paths.map view.canonical ++ watcher.files) :=
      List.forall_mem_append.2
        ⟨areNormal_map_canonical hview hthere, hwatcher.areNormal_nodup.1⟩
    rw [watches, sameFiles_iff] at h
    rw [← mem_map_canonical_iff hview hthere]
    constructor
    · intro hfile
      obtain ⟨other, hother, hsame⟩ := List.mem_map.1 ((h file.components).2
        (List.mem_map_of_mem hfile))
      have heq : other = file := (hnormal.components_inj (List.mem_append_left _ hother)
        (List.mem_append_right _ hfile)).1 hsame
      exact heq ▸ hother
    · intro hfile
      obtain ⟨other, hother, hsame⟩ := List.mem_map.1 ((h file.components).1
        (List.mem_map_of_mem hfile))
      have heq : other = file := (hnormal.components_inj (List.mem_append_right _ hother)
        (List.mem_append_left _ hfile)).1 hsame
      exact heq ▸ hother
  · exact fun h => (h.watches_iff hview hthere).2 fun file => Iff.rfl

end Watcher

/-- What can be read can be watched. -/
theorem ofPaths_of_read (hview : view.Lawful) (hpaths : paths ≠ [])
    (hread : ∀ path ∈ paths, ∃ text, view.read path = .ok text) (delay : Nat) :
    (∀ path ∈ paths, view.exists? path = true) ∧
      Watcher.ofPaths view paths delay =
        .ok ⟨⟨(paths.map view.canonical).eraseDups, delay, none⟩, []⟩ := by
  have hthere : ∀ path ∈ paths, view.exists? path = true := by
    intro path hpath
    obtain ⟨text, htext⟩ := hread path hpath
    exact hview.exists_of_read htext
  have hfiles := foldl_addNew (areNormal_map_canonical hview hthere)
  refine ⟨hthere, ofPaths_eq_ok_iff.2 ⟨hpaths, hthere, ?_, by rw [hfiles]⟩⟩
  intro file hfile
  rw [hfiles, List.mem_eraseDups, mem_map_canonical_iff hview hthere] at hfile
  obtain ⟨path, hpath, hcanonical⟩ := hfile
  obtain ⟨text, htext⟩ := hread path hpath
  obtain ⟨directory, name, hplain, hentry⟩ := hview.canonical_of_read path text htext
  obtain rfl := Option.some.inj (hcanonical.symm.trans hentry)
  rw [Path.parent?_ofNames hplain]
  rfl

/-- A watch of one path that can be read is a watch of the file that it leads to. -/
theorem ofPaths_singleton (hview : view.Lawful) {path file : Path} {text : String}
    (hread : view.read path = .ok text) (hcanonical : view.canonical? path = some file)
    (delay : Nat) : Watcher.ofPaths view [path] delay = .ok ⟨⟨[file], delay, none⟩, []⟩ := by
  have hfile : view.canonical path = file := by
    rw [View.canonical, hcanonical, Option.getD_some]
  have hofPaths := (ofPaths_of_read hview (List.cons_ne_nil path [])
    (List.forall_mem_singleton.2 ⟨text, hread⟩) delay).2
  rw [List.map_singleton, hfile] at hofPaths
  exact hofPaths

/-- No watch starts without paths, or with one that leads nowhere. -/
theorem ofPaths_eq_error (h : paths = [] ∨ ∃ path ∈ paths, view.exists? path = false)
    (delay : Nat) : ∃ e, Watcher.ofPaths view paths delay = .error e := by
  cases hwatcher : Watcher.ofPaths view paths delay with
  | error e => exact ⟨e, rfl⟩
  | ok watcher =>
    obtain ⟨hpaths, hthere, -⟩ := ofPaths_eq_ok_iff.1 hwatcher
    rcases h with hnil | ⟨path, hpath, hmissing⟩
    · exact absurd hnil hpaths
    · rw [hthere path hpath] at hmissing
      cases hmissing

/-- After a load that has succeeded, the sources can be watched: a new watcher lists their
canonical paths in the order of first appearance, and an earlier one is kept just if it covers
them, whatever it has watched and been told. Either way the sources are covered, each file once, and
whatever paths lead to the same files are taken for them. Without paths, or with one that
leads nowhere, no watch starts. -/
theorem watched_set_catches_up [Parsers] (hview : view.Lawful) {life : Lifecycle}
    (hlife : life.JustLoaded view) (hwatcher : watcher.Reachable) (delay : Nat) :
    let wanted := (life.sources.map view.canonical).eraseDups
    let fresh : Watcher := ⟨⟨wanted, delay, none⟩, []⟩
    Watcher.ofPaths view life.sources delay = .ok fresh ∧
      (∃ kept, watcher.refresh view life.sources delay = .ok kept ∧
        (kept = watcher ↔ watcher.Covers view life.sources) ∧
        (kept = watcher ∨ kept = fresh) ∧
        ∀ result ∈ [fresh, kept],
          result.Covers view life.sources ∧
          (result.files.map Path.components).Nodup ∧
          (∀ file ∈ result.files, view.canonical file = file) ∧
          ∀ paths, result.watches view paths = true ↔
            ∀ file, file ∈ paths.map view.identity ↔ file ∈ life.sources.map view.identity) ∧
      ∀ (other : View) (paths : List Path),
        paths = [] ∨ (∃ path ∈ paths, other.exists? path = false) →
          ∃ e, Watcher.ofPaths other paths delay = .error e := by
  intro wanted fresh
  obtain ⟨hsources, htexts⟩ := hlife.exists_text
  obtain ⟨hthere, hfresh⟩ := ofPaths_of_read hview hsources htexts delay
  have hreachable : fresh.Reachable := .ofPaths hview hfresh
  have hcovers : fresh.Covers view life.sources := by
    intro file
    rw [← mem_map_canonical_iff hview hthere]
    exact List.mem_eraseDups
  have hresult {result : Watcher} (hresult : result.Reachable)
      (h : result.Covers view life.sources) :
      result.Covers view life.sources ∧ (result.files.map Path.components).Nodup ∧
        (∀ file ∈ result.files, view.canonical file = file) ∧
        ∀ paths, result.watches view paths = true ↔
          ∀ file, file ∈ paths.map view.identity ↔ file ∈ life.sources.map view.identity := by
    obtain ⟨hnormal, hnodup⟩ := hresult.areNormal_nodup
    refine ⟨h, ?_, ?_, fun paths => h.watches_iff hview hthere⟩
    · exact hnodup.map_on fun file hfile other hother =>
        (hnormal.components_inj hfile hother).1
    · intro file hfile
      obtain ⟨source, -, hcanonical⟩ := (h file).1 hfile
      exact hview.canonical_canonical source file hcanonical
  refine ⟨hfresh, ?_, fun other paths h => ofPaths_eq_error h delay⟩
  have hwatches := hwatcher.watches_iff_covers hview hthere
  by_cases h : watcher.Covers view life.sources
  · refine ⟨watcher, by rw [Watcher.refresh, if_pos (hwatches.2 h)], by simp [h], Or.inl rfl, ?_⟩
    exact List.forall_mem_cons.2 ⟨hresult hreachable hcovers,
      List.forall_mem_singleton.2 (hresult hwatcher h)⟩
  · have hne : fresh ≠ watcher := fun heq => h (heq ▸ hcovers)
    refine ⟨fresh, ?_, by simp [h, hne], Or.inr rfl, ?_⟩
    · rw [Watcher.refresh, if_neg fun hsame => h (hwatches.1 hsame), hfresh]
    · exact List.forall_mem_cons.2 ⟨hresult hreachable hcovers,
        List.forall_mem_singleton.2 (hresult hreachable hcovers)⟩

open scoped Parsers

/-- Two files include a third, one of them through a link. A watcher of a file that is not
included any more is replaced. -/
theorem watched_set_catches_up_shared_include :
    let file (text : String) : Files.Entry := .file text.toUTF8
    let tree : Tree := ⟨["d"], [(["d"], .directory),
      (["d", "main.yaml"], file "include: [a.yaml, ./b.yaml]\n"),
      (["d", "a.yaml"], file "include: c.yaml\n"), (["d", "b.yaml"], file "include: link.yaml\n"),
      (["d", "c.yaml"], file "tags: [c]\n"), (["d", "link.yaml"], .link ⟨"c.yaml"⟩),
      (["d", "old.yaml"], file "")]⟩
    ∃ life watcher kept, Lifecycle.ofFile tree.view ⟨"main.yaml"⟩ = .ok life ∧
      Watcher.ofPaths tree.view [⟨"main.yaml"⟩, ⟨"old.yaml"⟩] 50 = .ok watcher ∧
      watcher.refresh tree.view life.sources 50 = .ok kept ∧ kept ≠ watcher ∧
      kept.files = [⟨"/d/main.yaml"⟩, ⟨"/d/a.yaml"⟩, ⟨"/d/c.yaml"⟩, ⟨"/d/b.yaml"⟩] ∧
      kept.watches tree.view
        [⟨"/d/link.yaml"⟩, ⟨"b.yaml"⟩, ⟨"a.yaml"⟩, ⟨"../d/main.yaml"⟩] = true := by
  intro file tree
  have htree : tree.WellFormed := Tree.wellFormed_of_entries (by decide +kernel) (by decide +kernel)
  have hlife : (Lifecycle.ofFile tree.view ⟨"main.yaml"⟩).toOption.map Lifecycle.sources =
      some [⟨"main.yaml"⟩, ⟨"a.yaml"⟩, ⟨"c.yaml"⟩, ⟨"./b.yaml"⟩, ⟨"./link.yaml"⟩] := by
    decide +kernel
  have hold : (Watcher.ofPaths tree.view [⟨"main.yaml"⟩, ⟨"old.yaml"⟩] 50).toOption.map
      Watcher.files = some [⟨"/d/main.yaml"⟩, ⟨"/d/old.yaml"⟩] := by decide +kernel
  obtain ⟨life, hofFile, hsources⟩ := map_toOption_eq_some_iff.1 hlife
  obtain ⟨watcher, hofPaths, hfiles⟩ := map_toOption_eq_some_iff.1 hold
  obtain ⟨-, ⟨kept, hrefresh, hkept, hcases, -⟩, -⟩ := watched_set_catches_up htree.lawful_view
    (.first hofFile) (.ofPaths htree.lawful_view hofPaths) 50
  rw [hsources] at hkept hcases
  have hchanged : kept ≠ watcher := by
    intro hsame
    obtain ⟨path, hpath, hcanonical⟩ :=
      (hkept.1 hsame ⟨"/d/old.yaml"⟩).1 (by rw [hfiles]; decide)
    have hnone : ∀ path ∈ ([⟨"main.yaml"⟩, ⟨"a.yaml"⟩, ⟨"c.yaml"⟩, ⟨"./b.yaml"⟩,
        ⟨"./link.yaml"⟩] : List Path), tree.view.canonical? path ≠ some ⟨"/d/old.yaml"⟩ := by
      decide +kernel
    exact hnone path hpath hcanonical
  obtain rfl := hcases.resolve_left hchanged
  exact ⟨life, watcher, _, hofFile, hofPaths, hrefresh, hchanged, by decide +kernel,
    by decide +kernel⟩

end Watch

end TilingConfig
