import TilingConfig.Document.Load
import TilingConfig.Proofs.Document.Conversion

/-!
# What a reading leaves behind

Every reading of a file, whether it succeeds or not, leaves the chain as it was and only
adds to the files that have been read; the file itself is added before all that it
includes. It never fails for a reason that has nothing to do with files.
-/

namespace TilingConfig

/-- The error has to do with the files that are read, not with what is asked or what settings
say. -/
def ConfigError.IsFileError : ConfigError → Prop
  | .entry _ _ | .notLoaded => False
  | _ => True

namespace Document

open TilingConfig.Files

/-- The reading leaves the chain as it was, and keeps the files that have been read before. -/
def Grows {α : Type} (reading : Reading α) : Prop :=
  ∀ loader, (reading loader).2.chain = loader.chain ∧ loader.files <+: (reading loader).2.files

/-- If every target is read so, the whole conversion is. -/
theorem Conversion.grows_run {α : Type} {source : Path} {fetch : String → Reading Group}
    (hfetch : ∀ target, Grows (fetch target)) (conversion : Conversion α) :
    Grows (conversion.run source fetch) := by
  intro loader
  induction conversion generalizing loader with
  | done result => exact ⟨rfl, List.prefix_rfl⟩
  | failed line column fault => exact ⟨rfl, List.prefix_rfl⟩
  | included target next ih =>
    have hstep := hfetch target loader
    rw [run]
    rcases hmid : fetch target loader with ⟨e | group, mid⟩
    · rwa [hmid] at hstep
    · rw [hmid] at hstep
      have hrest := ih group mid
      exact ⟨hrest.1.trans hstep.1, hstep.2.trans hrest.2⟩

theorem grows_fetchFrom {read : Path → Reading Group} (hread : ∀ path, Grows (read path))
    (source : Path) (target : String) : Grows (fetchFrom read source target) :=
  fun loader => hread _ (loader.report _)

/-- Every error of the reading has to do with the files that are read. -/
def FailsAtFile {α : Type} (reading : Reading α) : Prop :=
  ∀ loader e after, reading loader = (.error e, after) → e.IsFileError

theorem Conversion.failsAtFile_run {α : Type} {source : Path} {fetch : String → Reading Group}
    (hfetch : ∀ target, FailsAtFile (fetch target)) (conversion : Conversion α) :
    FailsAtFile (conversion.run source fetch) := by
  intro loader e after h
  induction conversion generalizing loader with
  | done result => simp at h
  | failed line column fault =>
    obtain ⟨rfl, -⟩ : .badSyntax source line column fault = e ∧ loader = after := by simpa using h
    exact .intro
  | included target next ih =>
    rcases run_included_eq_error_iff.1 h with hstep | ⟨group, mid, -, hrest⟩
    · exact hfetch target loader e after hstep
    · exact ih group mid hrest

/-- A document is what a reading leaves. -/
theorem ofReading_eq_ok_iff {reading : Reading Group} {loader : Loader} {document : Document} :
    (ofReading reading loader).1 = .ok document ↔
      ∃ after, reading loader = (.ok document.root, after) ∧ document.files = after.files := by
  obtain ⟨root, files⟩ := document
  rw [ofReading]
  rcases reading loader with ⟨e | group, after⟩
  · simp [Except.map]
  · simp [Except.map, eq_comm, and_assoc]

theorem ofReading_eq_error_iff {reading : Reading Group} {loader : Loader} {e : ConfigError} :
    (ofReading reading loader).1 = .error e ↔ ∃ after, reading loader = (.error e, after) := by
  rw [ofReading]
  rcases reading loader with ⟨e' | group, after⟩ <;> simp [Except.map]

variable [Parsers]

/-- The reading of a file that has been entered. -/
def readEntered (view : View) (room : Nat) (path : Path) (text : String) : Reading Group :=
  (convert (.ofPath path) text).run path (fetchFrom (readFile view room) path)

/-- All that the reading of a file can do: it goes round in a circle, it finds no text, or it
converts the text inside the file and leaves it again. -/
theorem readFile_succ_cases (view : View) (room : Nat) (path : Path) (loader : Loader) :
    (view.identity path ∈ loader.chain ∧
      readFile view (room + 1) path loader = (.error (.includeCycle path), loader)) ∨
    (∃ cause, view.identity path ∉ loader.chain ∧ view.read path = .error cause ∧
      readFile view (room + 1) path loader = (.error (.unreadable path cause), loader)) ∨
    (∃ text result inner, view.identity path ∉ loader.chain ∧ view.read path = .ok text ∧
      readEntered view room path text (loader.enter path (view.identity path)) =
        (result, inner) ∧
      readFile view (room + 1) path loader = (result, inner.leave)) := by
  by_cases hfile : view.identity path ∈ loader.chain
  · exact Or.inl ⟨hfile, by simp only [readFile, hfile, if_true]⟩
  · cases htext : view.read path with
    | error cause =>
      exact Or.inr (Or.inl ⟨cause, hfile, rfl, by simp only [readFile, hfile, if_false, htext]⟩)
    | ok text =>
      refine Or.inr (Or.inr ⟨text, _, _, hfile, rfl, rfl, ?_⟩)
      simp only [readFile, hfile, if_false, htext]

/-- A file that is read has a text, and is not read inside itself. -/
theorem readFile_succ_eq_ok {view : View} {room : Nat} {path : Path} {loader after : Loader}
    {group : Group} (h : readFile view (room + 1) path loader = (.ok group, after)) :
    ∃ text inner, view.identity path ∉ loader.chain ∧ view.read path = .ok text ∧
      readEntered view room path text (loader.enter path (view.identity path)) =
        (.ok group, inner) ∧ after = inner.leave := by
  rcases readFile_succ_cases view room path loader with
    ⟨-, he⟩ | ⟨cause, -, -, he⟩ | ⟨text, result, inner, hfile, htext, hinner, he⟩
  · simp [he] at h
  · simp [he] at h
  · obtain ⟨rfl, rfl⟩ : result = .ok group ∧ inner.leave = after := by simpa [he] using h
    exact ⟨text, inner, hfile, htext, hinner, rfl⟩

/-- A file that has been entered and left again has been noted, and the chain is as it was. -/
theorem readEntered_leave {view : View} {room : Nat}
    (hread : ∀ path, Grows (readFile view room path)) {path : Path} {text : String}
    {file : Components} {loader inner : Loader} {result : Except ConfigError Group}
    (h : readEntered view room path text (loader.enter path file) = (result, inner)) :
    inner.leave.chain = loader.chain ∧ loader.files ++ [path] <+: inner.leave.files := by
  have hgrows : Grows (readEntered view room path text) :=
    Conversion.grows_run (grows_fetchFrom hread path) _
  have hrun := hgrows (loader.enter path file)
  rw [h] at hrun
  refine ⟨?_, hrun.2⟩
  rw [Loader.leave, hrun.1]
  rfl

/-- The reading of a file leaves the chain as it was, however it ends. -/
theorem grows_readFile (view : View) (room : Nat) (path : Path) :
    Grows (readFile view room path) := by
  induction room generalizing path with
  | zero => exact fun loader => ⟨rfl, List.prefix_rfl⟩
  | succ room ih =>
    intro loader
    rcases readFile_succ_cases view room path loader with
      ⟨-, he⟩ | ⟨cause, -, -, he⟩ | ⟨text, result, inner, -, -, hinner, he⟩
    · rw [he]
      exact ⟨rfl, List.prefix_rfl⟩
    · rw [he]
      exact ⟨rfl, List.prefix_rfl⟩
    · obtain ⟨hchain, hfiles⟩ := readEntered_leave ih hinner
      rw [he]
      exact ⟨hchain, (List.prefix_append _ _).trans hfiles⟩

/-- The reading of a file fails for the sake of some file or not at all. -/
theorem failsAtFile_readFile (view : View) (room : Nat) (path : Path) :
    FailsAtFile (readFile view room path) := by
  induction room generalizing path with
  | zero =>
    intro loader e after h
    obtain ⟨rfl, -⟩ : .includeDepth path = e ∧ loader = after := by simpa [readFile] using h
    exact .intro
  | succ room ih =>
    have hrun (text : String) : FailsAtFile (readEntered view room path text) :=
      Conversion.failsAtFile_run (fun target loader => ih _ _) _
    intro loader e after h
    rcases readFile_succ_cases view room path loader with
      ⟨-, he⟩ | ⟨cause, -, -, he⟩ | ⟨text, result, inner, -, -, hinner, he⟩
    · obtain ⟨rfl, -⟩ : .includeCycle path = e ∧ loader = after := by simpa [he] using h
      exact .intro
    · obtain ⟨rfl, -⟩ : .unreadable path cause = e ∧ loader = after := by simpa [he] using h
      exact .intro
    · obtain ⟨rfl, -⟩ : result = .error e ∧ inner.leave = after := by simpa [he] using h
      exact hrun text _ e inner hinner

/-- A document cannot be loaded for the sake of some file or not at all. -/
theorem load_eq_error {view : View} {path : Path} {e : ConfigError}
    (h : (load view path).1 = .error e) : e.IsFileError := by
  obtain ⟨after, hread⟩ := ofReading_eq_error_iff.1 h
  exact failsAtFile_readFile view _ path _ _ _ hread

/-- The main file is the first of a document's files. -/
theorem load_files_head? {view : View} {path : Path} {document : Document}
    (h : (load view path).1 = .ok document) : document.files.head? = some path := by
  obtain ⟨after, hread, hdocument⟩ := ofReading_eq_ok_iff.1 h
  obtain ⟨text, inner, -, -, hinner, rfl⟩ := readFile_succ_eq_ok hread
  obtain ⟨rest, hrest⟩ := (readEntered_leave (grows_readFile view includeDepth) hinner).2
  rw [hdocument, ← hrest]
  rfl

end Document

end TilingConfig
