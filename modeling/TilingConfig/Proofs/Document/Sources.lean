import TilingConfig.Proofs.Lifecycle

/-!
# The files behind a document

A document lists every file that has had a say in it. Where two file systems agree on
these files, a load gives the same in both, however the rest of them differs; so it is
enough to look after the listed files to notice that a snapshot is out of date.
-/

namespace TilingConfig

open TilingConfig.Files

/-- The views show the same at some paths: the same text, and the same file behind it. -/
def Files.View.AgreeOn (view other : View) (paths : List Path) : Prop :=
  ∀ path ∈ paths, view.read path = other.read path ∧ view.identity path = other.identity path

namespace Document

variable {α : Type}

/-- Whatever one reading succeeds with, the other succeeds with, too, as long as only these files
are read. -/
def Carries (files : List Path) (reading reading' : Reading α) : Prop :=
  ∀ loader result after, reading loader = (.ok result, after) → after.files ⊆ files →
    reading' loader = (.ok result, after)

/-- What is known of the targets is known of the conversion. The files of a target are among those
of the whole, since a reading never forgets a file. -/
theorem Conversion.carries_run {files : List Path} {source : Path}
    {fetch fetch' : String → Reading Group} (hgrows : ∀ target, Grows (fetch target))
    (hfetch : ∀ target, Carries files (fetch target) (fetch' target)) (conversion : Conversion α) :
    Carries files (conversion.run source fetch) (conversion.run source fetch') := by
  intro loader result after h hafter
  induction conversion generalizing loader with
  | done value => exact h
  | failed line column fault => exact h
  | included target next ih =>
    obtain ⟨group, mid, hgroup, hrun⟩ := run_included_eq_ok_iff.1 h
    have hmid : mid.files ⊆ after.files := by
      have hrest : Grows ((next group).run source fetch) := grows_run hgrows _
      have hprefix := (hrest mid).2
      rw [hrun] at hprefix
      exact hprefix.subset
    refine run_included_eq_ok_iff.2 ⟨group, mid, ?_, ih group mid hrun⟩
    exact hfetch target loader group mid hgroup (List.Subset.trans hmid hafter)

variable [Parsers] {view other : View}

/-- A file is read in the same way where the views agree on all that is read for it. -/
theorem carries_readFile {files : List Path} (hagree : view.AgreeOn other files) (room : Nat)
    (path : Path) : Carries files (readFile view room path) (readFile other room path) := by
  induction room generalizing path with
  | zero => exact fun loader result after h _ => h
  | succ room ih =>
    intro loader group after h hafter
    obtain ⟨text, inner, hfile, htext, hinner, rfl⟩ := readFile_succ_eq_ok h
    have hentered := (readEntered_leave (grows_readFile view room) hinner).2
    have hpath : path ∈ files := hafter (hentered.subset (by simp))
    obtain ⟨hread, hidentity⟩ := hagree path hpath
    have hrun : readEntered other room path text (loader.enter path (view.identity path)) =
        (.ok group, inner) :=
      Conversion.carries_run (grows_fetchFrom (grows_readFile view room) path)
        (fun target loader => ih _ (loader.report _)) _ _ _ _ hinner hafter
    rw [readEntered] at hrun
    simp only [readFile, ← hidentity, hfile, if_false, ← hread, htext, hrun]

/-- A load is the same where the views agree on the files of the document. -/
theorem load_eq_of_agreeOn {path : Path} {document : Document}
    (h : (load view path).1 = .ok document) (hagree : view.AgreeOn other document.files) :
    load other path = load view path := by
  obtain ⟨after, hread, hfiles⟩ := ofReading_eq_ok_iff.1 h
  rw [hfiles] at hagree
  have hother := carries_readFile hagree _ path _ _ _ hread (List.Subset.refl _)
  rw [load, load, ofReading, ofReading, hread, hother]

end Document

namespace Lifecycle

/-- The load is the current one. -/
structure Shows (life : Lifecycle) (load : Loaded) : Prop where
  snapshot : life.snapshot = load.snapshot
  path : life.path? = some load.path
  sources : life.sources = load.sources

theorem shows_ofLoaded (load : Loaded) : (ofLoaded load).Shows load := ⟨rfl, rfl, rfl⟩

theorem shows_publish (life : Lifecycle) (load : Loaded) : (life.publish load).Shows load := by
  obtain ⟨fallback | loaded, path, sources, generation, released⟩ := life <;>
    exact ⟨rfl, rfl, rfl⟩

end Lifecycle

section

variable [Parsers]

/-- So is the snapshot that is built from it. -/
theorem Loaded.ofFile_eq_of_agreeOn {view other : View} {path : Path} {document : Document}
    (h : (Document.load view path).1 = .ok document)
    (hagree : view.AgreeOn other document.files) :
    Loaded.ofFile other path = Loaded.ofFile view path := by
  rw [Loaded.ofFile, Loaded.ofFile, Document.load_eq_of_agreeOn h hagree]

namespace Lifecycle

variable {view : View} {life : Lifecycle} {load : Loaded}

/-- A life that has just started from a file shows its load. -/
theorem exists_shows_of_ofFile {path : Path} (h : ofFile view path = .ok life) :
    ∃ load, Loaded.ofFile view path = .ok load ∧ life.Shows load := by
  obtain ⟨load, hload, rfl⟩ := map_eq_ok_iff.1 h
  exact ⟨load, hload, shows_ofLoaded load⟩

/-- So does a life after a load that has succeeded. -/
theorem exists_shows_of_load {before : Lifecycle} {path : Path}
    (h : before.load view path = (.ok (), life)) :
    ∃ load, Loaded.ofFile view path = .ok load ∧ life.Shows load := by
  obtain ⟨load, hload, rfl⟩ := load_eq_ok_iff.1 h
  exact ⟨load, hload, shows_publish before load⟩

/-- To load again changes nothing where the files of the current load are as they were. -/
theorem Shows.reload (hlife : life.Shows load)
    (hload : Loaded.ofFile view load.path = .ok load) {other : View}
    (hagree : view.AgreeOn other load.sources) : (life.reload other).2.Shows load := by
  obtain ⟨document, hdocument, -, -, hsources⟩ := Loaded.ofFile_eq_ok_iff.1 hload
  have hagain : Loaded.ofFile other load.path = .ok load := by
    rw [Loaded.ofFile_eq_of_agreeOn hdocument (hsources ▸ hagree), hload]
  rw [reload_of_path?_eq_some hlife.path, load_of_ok hagain]
  exact shows_publish life load

/-- So it is with any number of reloads while the other files change. -/
theorem Shows.run_reloads (hlife : life.Shows load)
    (hload : Loaded.ofFile view load.path = .ok load) {requests : List (View × Request)}
    (hrequests : ∀ step ∈ requests, step.2 = .reload ∧ view.AgreeOn step.1 load.sources) :
    (life.run requests).Shows load := by
  induction requests generalizing life with
  | nil => exact hlife
  | cons first rest ih =>
    obtain ⟨other, request⟩ := first
    obtain ⟨⟨rfl, hagree⟩, hrest⟩ := List.forall_mem_cons.1 hrequests
    rw [run_cons]
    exact ih (hlife.reload hload hagree) hrest

end Lifecycle

namespace Document

open Lifecycle

/-- Nothing but the files that a document lists has a say in it: where two file systems agree on
these, a load gives the same document and the same snapshot in both, or the same error of a
setting. Once a load is current, no change to other files is seen however often it is loaded
again. -/
theorem recorded_sources_complete {view other : View} {path : Path} {document : Document}
    (h : (load view path).1 = .ok document) (hagree : view.AgreeOn other document.files) :
    load other path = load view path ∧
      Loaded.ofFile other path = Loaded.ofFile view path ∧
      ∀ life : Lifecycle,
        (Lifecycle.ofFile view path = .ok life ∨
          ∃ before : Lifecycle, before.load view path = (.ok (), life)) →
        life.sources = document.files ∧
          ∀ requests : List (View × Request),
            (∀ step ∈ requests, step.2 = .reload ∧ view.AgreeOn step.1 life.sources) →
            (life.run requests).snapshot = life.snapshot ∧
              (life.run requests).path? = life.path? ∧
              (life.run requests).sources = life.sources := by
  refine ⟨load_eq_of_agreeOn h hagree, Loaded.ofFile_eq_of_agreeOn h hagree, fun life hlife => ?_⟩
  obtain ⟨load, hload, hshows⟩ : ∃ load, Loaded.ofFile view path = .ok load ∧ life.Shows load :=
    hlife.elim exists_shows_of_ofFile fun ⟨_, hlater⟩ => exists_shows_of_load hlater
  obtain ⟨document', hdocument, -, rfl, hsources⟩ := Loaded.ofFile_eq_ok_iff.1 hload
  obtain rfl : document' = document := Except.ok.inj (hdocument.symm.trans h)
  refine ⟨hshows.sources.trans hsources, fun requests hrequests => ?_⟩
  rw [hshows.sources] at hrequests
  have hrun := hshows.run_reloads hload hrequests
  exact ⟨hrun.snapshot.trans hshows.snapshot.symm, hrun.path.trans hshows.path.symm,
    hrun.sources.trans hshows.sources.symm⟩

end Document

end

open scoped Parsers

open Document in
/-- A file that is not included comes into being, and is no proper configuration. -/
theorem Document.recorded_sources_complete_stray_file :
    let view : View := ⟨fun path =>
      if path = ⟨"a.yaml"⟩ then .ok "include: b.toml"
      else if path = ⟨"b.toml"⟩ then .ok "tags = []"
      else .error .notFound, fun _ => true, fun _ => none⟩
    let other : View :=
      ⟨fun path => if path = ⟨"c.yaml"⟩ then .ok "tags: [" else view.read path,
        fun _ => true, fun _ => none⟩
    (∃ document, (load view ⟨"a.yaml"⟩).1 = .ok document ∧ view.AgreeOn other document.files) ∧
      load other ⟨"a.yaml"⟩ = load view ⟨"a.yaml"⟩ := by
  intro view other
  have hfiles : (load view ⟨"a.yaml"⟩).1.toOption.map Document.files =
      some [⟨"a.yaml"⟩, ⟨"b.toml"⟩] := by decide +kernel
  obtain ⟨document, hdocument, hlist⟩ := Option.map_eq_some_iff.1 hfiles
  have hload : (load view ⟨"a.yaml"⟩).1 = .ok document := toOption_eq_some_iff.1 hdocument
  have hagree : view.AgreeOn other document.files := by
    rw [hlist]
    exact List.forall_mem_cons.2 ⟨⟨rfl, rfl⟩, List.forall_mem_singleton.2 ⟨rfl, rfl⟩⟩
  exact ⟨⟨document, hload, hagree⟩, (recorded_sources_complete hload hagree).1⟩

end TilingConfig
