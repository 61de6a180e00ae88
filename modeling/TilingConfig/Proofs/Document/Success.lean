import TilingConfig.Proofs.Document.Growth
import TilingConfig.Proofs.Document.Yield

/-!
# Successful readings

Whether a file can be read, and with what settings, depends on the files around it in the
chain only, and not on what has been read before. The fewer files are in the chain, and
the more room there is, the more can be read, always with the same settings.
-/

namespace TilingConfig.Document

open TilingConfig.Files

variable {α : Type}

/-- The reading succeeds with this result and reads these files. -/
def Succeeds (reading : Reading α) (loader : Loader) (result : α) (files : List Path) : Prop :=
  ∃ journal, reading loader = (.ok result, ⟨loader.chain, loader.files ++ files, journal⟩)

/-- A reading that only adds to the files succeeds with the files that it adds. -/
theorem Grows.exists_succeeds {reading : Reading α} (hgrows : Grows reading) {loader after : Loader}
    {result : α} (h : reading loader = (.ok result, after)) :
    ∃ files, after.files = loader.files ++ files ∧ Succeeds reading loader result files := by
  obtain ⟨chain, all, journal⟩ := after
  obtain ⟨hchain, files, hfiles⟩ := hgrows loader
  rw [h] at hchain hfiles
  obtain rfl : chain = loader.chain := hchain
  obtain rfl : loader.files ++ files = all := hfiles
  exact ⟨files, rfl, journal, h⟩

/-- An include succeeds part by part: the target is read first, then the rest of the text. -/
theorem succeeds_included_iff {source : Path} {fetch : String → Reading Group}
    (hgrows : ∀ target, Grows (fetch target)) {target : String} {next : Group → Conversion α}
    {loader : Loader} {result : α} {files : List Path} :
    Succeeds ((Conversion.included target next).run source fetch) loader result files ↔
      ∃ group first rest journal,
        fetch target loader = (.ok group, ⟨loader.chain, loader.files ++ first, journal⟩) ∧
        Succeeds ((next group).run source fetch) ⟨loader.chain, loader.files ++ first, journal⟩
          result rest ∧
        files = first ++ rest := by
  constructor
  · rintro ⟨journal, h⟩
    obtain ⟨group, mid, hgroup, hrun⟩ := Conversion.run_included_eq_ok_iff.1 h
    obtain ⟨first, -, journal', hfirst⟩ := (hgrows target).exists_succeeds hgroup
    obtain rfl : mid = ⟨loader.chain, loader.files ++ first, journal'⟩ :=
      (Prod.mk.inj (hgroup.symm.trans hfirst)).2
    obtain ⟨rest, hfiles, hrest⟩ := (Conversion.grows_run hgrows (next group)).exists_succeeds hrun
    refine ⟨group, first, rest, journal', hfirst, hrest, ?_⟩
    rw [List.append_assoc] at hfiles
    exact List.append_cancel_left hfiles
  · rintro ⟨group, first, rest, journal, hfirst, ⟨journal', hrest⟩, rfl⟩
    rw [List.append_assoc] at hrest
    exact ⟨journal', Conversion.run_included_eq_ok_iff.2 ⟨group, _, hfirst, hrest⟩⟩

/-- A conversion succeeds with what it yields when the targets are what they can be read as. -/
theorem succeeds_run_iff {source : Path} {fetch : String → Reading Group}
    {given : String → Group → List Path → Prop} (hgrows : ∀ target, Grows (fetch target))
    {loader : Loader}
    (hfetch : ∀ target loader' group files, loader'.chain = loader.chain →
      (Succeeds (fetch target) loader' group files ↔ given target group files))
    {conversion : Conversion α} {result : α} {files : List Path} :
    Succeeds (conversion.run source fetch) loader result files ↔
      conversion.Yields given result files := by
  constructor
  · intro h
    induction conversion generalizing loader files with
    | done value =>
      obtain ⟨journal, hrun⟩ := h
      obtain ⟨rfl, hloader⟩ : value = result ∧ loader = _ := by simpa using hrun
      have hfiles : loader.files = loader.files ++ files := congrArg Loader.files hloader
      rw [List.self_eq_append_right.1 hfiles]
      exact .done _
    | failed line column fault => simp [Succeeds] at h
    | included target next ih =>
      obtain ⟨group, first, rest, journal, hfirst, hrest, rfl⟩ :=
        (succeeds_included_iff hgrows).1 h
      refine .included ((hfetch target loader group first rfl).1 ⟨journal, hfirst⟩) ?_
      refine ih group ?_ hrest
      exact hfetch
  · intro h
    induction h generalizing loader with
    | done value => exact ⟨loader.journal, by simp⟩
    | included hgroup _ ih =>
      obtain ⟨journal, hfirst⟩ := (hfetch _ loader _ _ rfl).2 hgroup
      exact (succeeds_included_iff hgrows).2 ⟨_, _, _, journal, hfirst, ih hfetch, rfl⟩

/-- To fetch a target is to read the file that it leads to. -/
theorem succeeds_fetchFrom_iff {read : Path → Reading Group} {source : Path} {target : String}
    {loader : Loader} {group : Group} {files : List Path} :
    Succeeds (fetchFrom read source target) loader group files ↔
      Succeeds (read (resolveTarget source ⟨target⟩))
        (loader.report (source.text ++ " includes " ++ (resolveTarget source ⟨target⟩).text))
        group files := Iff.rfl

/-- A document is what a reading succeeds with. -/
theorem ofReading_eq_ok_iff_succeeds {reading : Reading Group} (hgrows : Grows reading)
    {loader : Loader} (hfiles : loader.files = []) {document : Document} :
    (ofReading reading loader).1 = .ok document ↔
      Succeeds reading loader document.root document.files := by
  rw [ofReading_eq_ok_iff]
  constructor
  · rintro ⟨after, hread, hdocument⟩
    obtain ⟨files, hafter, hsucceeds⟩ := hgrows.exists_succeeds hread
    rwa [hdocument, hafter, hfiles]
  · rintro ⟨journal, h⟩
    exact ⟨_, h, by rw [hfiles, List.nil_append]⟩

variable [Parsers]

/-- A file can be read inside the files of a chain, with these settings, and these files are read
for it. -/
def Reads (view : View) : Nat → List Components → Path → Group → List Path → Prop
  | 0, _, _, _, _ => False
  | room + 1, chain, path, group, files =>
    view.identity path ∉ chain ∧ ∃ text within, view.read path = .ok text ∧
      (convert (.ofPath path) text).Yields
        (fun target => Reads view room (view.identity path :: chain) (resolveTarget path ⟨target⟩))
        group within ∧
      files = path :: within

/-- What the targets named in the file `source` are inside the files of a chain. -/
def Given (view : View) (room : Nat) (chain : List Components) (source : Path) (target : String) :
    Group → List Path → Prop :=
  Reads view room chain (resolveTarget source ⟨target⟩)

theorem reads_succ_iff {view : View} {room : Nat} {chain : List Components} {path : Path}
    {group : Group} {files : List Path} :
    Reads view (room + 1) chain path group files ↔
      view.identity path ∉ chain ∧ ∃ text within, view.read path = .ok text ∧
        (convert (.ofPath path) text).Yields (Given view room (view.identity path :: chain) path)
          group within ∧
        files = path :: within := Iff.rfl

/-- The reading of a file that is entered and left again succeeds if that of its text does. -/
theorem succeeds_readFile_succ_iff {view : View} {room : Nat} {path : Path} {loader : Loader}
    {group : Group} {files : List Path} :
    Succeeds (readFile view (room + 1) path) loader group files ↔
      view.identity path ∉ loader.chain ∧ ∃ text within, view.read path = .ok text ∧
        Succeeds (readEntered view room path text) (loader.enter path (view.identity path))
          group within ∧
        files = path :: within := by
  have hgrows (text : String) : Grows (readEntered view room path text) :=
    Conversion.grows_run (grows_fetchFrom (grows_readFile view room) path) _
  constructor
  · rintro ⟨journal, h⟩
    obtain ⟨text, inner, hfile, htext, hinner, hafter⟩ := readFile_succ_eq_ok h
    obtain ⟨within, hfiles, hwithin⟩ := (hgrows text).exists_succeeds hinner
    refine ⟨hfile, text, within, htext, hwithin, ?_⟩
    have hall : loader.files ++ files = inner.files := congrArg Loader.files hafter
    rw [hfiles, Loader.enter, List.append_assoc] at hall
    exact List.append_cancel_left hall
  · rintro ⟨hfile, text, within, htext, ⟨journal, hwithin⟩, rfl⟩
    refine ⟨journal, ?_⟩
    rw [readEntered] at hwithin
    simp only [readFile, hfile, if_false, htext, hwithin]
    simp [Loader.leave, Loader.enter]

/-- What a file can be read as is decided by the chain alone. -/
theorem succeeds_readFile_iff {view : View} {room : Nat} {path : Path} {loader : Loader}
    {group : Group} {files : List Path} :
    Succeeds (readFile view room path) loader group files ↔
      Reads view room loader.chain path group files := by
  induction room generalizing path loader group files with
  | zero => simp [Succeeds, readFile, Reads]
  | succ room ih =>
    rw [succeeds_readFile_succ_iff, reads_succ_iff]
    refine and_congr_right fun _ => exists_congr fun text => exists_congr fun within =>
      and_congr_right fun _ => and_congr_left fun _ => ?_
    refine succeeds_run_iff (grows_fetchFrom (grows_readFile view room) path) ?_
    intro target loader' group files hchain
    rw [succeeds_fetchFrom_iff, ih, Loader.report, hchain]
    rfl

/-- What a text can be converted to is decided by the chain alone. -/
theorem succeeds_run_fetchFrom_iff {view : View} {room : Nat} {source : Path} {loader : Loader}
    {conversion : Conversion α} {result : α} {files : List Path} :
    Succeeds (conversion.run source (fetchFrom (readFile view room) source)) loader result files ↔
      conversion.Yields (Given view room loader.chain source) result files := by
  refine succeeds_run_iff (grows_fetchFrom (grows_readFile view room) source) ?_
  intro target loader' group files hchain
  rw [succeeds_fetchFrom_iff, succeeds_readFile_iff, Loader.report, hchain]
  rfl

/-- A file that can be read can be read inside fewer files and with more room, too. -/
theorem Reads.mono {view : View} {room room' : Nat} {chain chain' : List Components} {path : Path}
    {group : Group} {files : List Path} (h : Reads view room chain path group files)
    (hroom : room ≤ room') (hchain : chain' ⊆ chain) :
    Reads view room' chain' path group files := by
  induction room generalizing room' chain chain' path group files with
  | zero => exact h.elim
  | succ room ih =>
    obtain ⟨room', rfl⟩ := Nat.exists_eq_add_of_le' (Nat.zero_lt_of_lt hroom)
    obtain ⟨hfile, text, within, htext, hwithin, rfl⟩ := reads_succ_iff.1 h
    refine reads_succ_iff.2 ⟨fun hmem => hfile (hchain hmem), text, within, htext, ?_, rfl⟩
    refine hwithin.weaken fun target group files hgiven => ?_
    exact ih hgiven (Nat.le_of_succ_le_succ hroom) (List.cons_subset_cons _ hchain)

/-- Every file that is read for a file can be read. -/
theorem Reads.exists_text {view : View} {room : Nat} {chain : List Components} {path : Path}
    {group : Group} {files : List Path} (h : Reads view room chain path group files) :
    ∀ file ∈ files, ∃ text, view.read file = .ok text := by
  induction room generalizing chain path group files with
  | zero => exact h.elim
  | succ room ih =>
    obtain ⟨-, text, within, htext, hwithin, rfl⟩ := reads_succ_iff.1 h
    have hrest := hwithin.forall_files fun target group files hgiven => ih hgiven
    exact List.forall_mem_cons.2 ⟨⟨text, htext⟩, hrest⟩

/-- A document is what its main file can be read as. -/
theorem load_eq_ok_iff_reads {view : View} {path : Path} {document : Document} :
    (load view path).1 = .ok document ↔
      Reads view (includeDepth + 1) [] path document.root document.files := by
  rw [load, ofReading_eq_ok_iff_succeeds (grows_readFile view _ path) rfl, succeeds_readFile_iff]
  rfl

/-- A document in a text is what the text can be converted to in the place of its origin. -/
theorem ofText_eq_ok_iff_yields {view : View} {surface : Surface} {origin : Path} {text : String}
    {document : Document} :
    (ofText view surface origin text).1 = .ok document ↔
      (convert surface text).Yields (Given view includeDepth [view.identity origin] origin)
        document.root document.files := by
  rw [ofText, ofReading_eq_ok_iff_succeeds _ rfl, succeeds_run_fetchFrom_iff]
  exact Conversion.grows_run (grows_fetchFrom (grows_readFile view _) origin) _

end TilingConfig.Document
