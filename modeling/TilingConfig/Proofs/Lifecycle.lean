import TilingConfig.Lifecycle
import TilingConfig.Proofs.Document.Growth
import TilingConfig.Proofs.Snapshot.Failure
import TilingConfig.Proofs.Snapshot.Success

/-!
# The last successful load

The life of the current snapshot is what the successful loads make of it: the latest is
current, every one is counted, and all but the latest have been replaced. One request
keeps this up: it fails and leaves the life as it was, or it publishes one load. So any
sequence of requests does, whatever happens to the files meanwhile.
-/

namespace TilingConfig

open TilingConfig.Files

namespace Lifecycle

/-- The file that a request asks for after the loads `past`, the latest of them first. -/
def Request.target? (past : List Loaded) : Request → Option Path
  | .load path => some path
  | .reload => past.head?.map Loaded.path

/-- What the successful loads, the latest first, make of a fallback. The counters are told as
machine words. -/
def ofLoads (fallback : Snapshot) : List Loaded → Lifecycle
  | [] => ofFallback fallback
  | load :: older =>
    ⟨.loaded load.snapshot, some load.path, load.sources, UInt64.ofNat (older.length + 1),
      UInt64.ofNat older.length⟩

section

variable (fallback : Snapshot) (past : List Loaded)

@[simp] theorem ofLoads_path? : (ofLoads fallback past).path? = past.head?.map Loaded.path := by
  cases past <;> rfl

@[simp] theorem ofLoads_generation :
    (ofLoads fallback past).generation = UInt64.ofNat past.length := by
  cases past <;> rfl

@[simp] theorem ofLoads_released :
    (ofLoads fallback past).released = UInt64.ofNat (past.length - 1) := by
  cases past <;> rfl

@[simp] theorem ofLoads_sources :
    (ofLoads fallback past).sources = (past.head?.map Loaded.sources).getD [] := by
  cases past <;> rfl

@[simp] theorem ofLoads_snapshot :
    (ofLoads fallback past).snapshot = (past.head?.map Loaded.snapshot).getD fallback := by
  cases past <;> rfl

@[simp] theorem ofLoads_state : (ofLoads fallback past).state = .loaded ↔ past ≠ [] := by
  cases past <;> simp [ofLoads, ofFallback, state]

/-- To publish a load is to put it before the loads so far. -/
theorem ofLoads_publish (load : Loaded) :
    (ofLoads fallback past).publish load = ofLoads fallback (load :: past) := by
  cases past with
  | nil => rfl
  | cons latest older =>
    simp only [publish, ofLoads, List.length_cons, UInt64.ofNat_add]
    rfl

end

end Lifecycle

section

variable [Parsers]

/-- A load is a document with the snapshot that is built from it. -/
theorem Loaded.ofFile_eq_ok_iff {view : View} {path : Path} {load : Loaded} :
    Loaded.ofFile view path = .ok load ↔
      ∃ document, (Document.load view path).1 = .ok document ∧
        build document.root = .ok load.snapshot ∧ load.path = path ∧
        load.sources = document.files := by
  obtain ⟨main, sources, snapshot⟩ := load
  rw [Loaded.ofFile]
  refine bind_eq_ok_iff.trans (exists_congr fun document => and_congr_right fun _ => ?_)
  simp only [map_eq_ok_iff, Document.build, Loaded.mk.injEq]
  constructor
  · rintro ⟨built, hbuild, rfl, rfl, rfl⟩
    exact ⟨hbuild, rfl, rfl⟩
  · rintro ⟨hbuild, rfl, rfl⟩
    exact ⟨snapshot, hbuild, rfl, rfl, rfl⟩

/-- The files of a load begin with its main file. -/
theorem Loaded.sources_head? {view : View} {path : Path} {load : Loaded}
    (h : Loaded.ofFile view path = .ok load) : load.sources.head? = some load.path := by
  obtain ⟨document, hload, -, rfl, hsources⟩ := Loaded.ofFile_eq_ok_iff.1 h
  rw [hsources, Document.load_files_head? hload]

/-- A load never fails for want of an earlier one. -/
theorem Loaded.ofFile_ne_notLoaded (view : View) (path : Path) :
    Loaded.ofFile view path ≠ .error .notLoaded := by
  rw [Loaded.ofFile]
  intro h
  cases hload : (Document.load view path).1 with
  | error e =>
    obtain rfl : e = .notLoaded := by simpa [hload, Except.bind] using h
    exact Document.load_eq_error hload
  | ok document =>
    cases hbuild : build document.root with
    | error e =>
      obtain ⟨location, defect, rfl⟩ := failsAtEntry_build document.root e hbuild
      simp [hload, Except.bind, Document.build, Except.map, hbuild] at h
    | ok built => simp [hload, Except.bind, Document.build, Except.map, hbuild] at h

namespace Lifecycle

/-- The loads that have succeeded after one more request. -/
def loadsAfter (past : List Loaded) (view : View) (request : Request) : List Loaded :=
  match request.target? past with
  | none => past
  | some path =>
    match Loaded.ofFile view path with
    | .ok load => load :: past
    | .error _ => past

/-- The loads that have succeeded after a sequence of requests, the latest first. -/
def loadsOf (past : List Loaded) (requests : List (View × Request)) : List Loaded :=
  requests.foldl (fun past (view, request) => loadsAfter past view request) past

/-- The ways to start: the life, its fallback, and the loads that have succeeded by then. -/
inductive Starts : Lifecycle → Snapshot → List Loaded → Prop where
  | standard : Starts .standard Default.snapshot []
  | ofFallback (snapshot : Snapshot) : Starts (.ofFallback snapshot) snapshot []
  | ofFile {view : View} {path : Path} {life : Lifecycle} {load : Loaded} (fallback : Snapshot)
      (hlife : ofFile view path = .ok life) (hload : Loaded.ofFile view path = .ok load) :
      Starts life fallback [load]

/-- The requests that succeed when all of them are made in order. -/
def succeeding (life : Lifecycle) : List (View × Request) → List (View × Request)
  | [] => []
  | (view, request) :: rest =>
    match life.serve view request with
    | (.ok (), next) => (view, request) :: next.succeeding rest
    | (.error _, next) => next.succeeding rest

theorem run_cons (life : Lifecycle) (view : View) (request : Request)
    (rest : List (View × Request)) :
    life.run ((view, request) :: rest) = (life.serve view request).2.run rest := rfl

theorem loadsOf_cons (past : List Loaded) (view : View) (request : Request)
    (rest : List (View × Request)) :
    loadsOf past ((view, request) :: rest) = loadsOf (loadsAfter past view request) rest := rfl

/-! ## One request -/

theorem load_of_error {view : View} {path : Path} {e : ConfigError}
    (h : Loaded.ofFile view path = .error e) (life : Lifecycle) :
    life.load view path = (.error e, life) := by
  simp only [load, h]

theorem load_of_ok {view : View} {path : Path} {load : Loaded}
    (h : Loaded.ofFile view path = .ok load) (life : Lifecycle) :
    life.load view path = (.ok (), life.publish load) := by
  simp only [Lifecycle.load, h]

/-- A file is loaded with success if it has a load, which is published then. -/
theorem load_eq_ok_iff {life next : Lifecycle} {view : View} {path : Path} :
    life.load view path = (.ok (), next) ↔
      ∃ load, Loaded.ofFile view path = .ok load ∧ life.publish load = next := by
  cases h : Loaded.ofFile view path with
  | error e => simp [load_of_error h]
  | ok load => simp [load_of_ok h]

/-- To load again is to load the file of the last load. -/
theorem reload_of_path?_eq_some {life : Lifecycle} {path : Path} (h : life.path? = some path)
    (view : View) : life.reload view = life.load view path := by
  simp only [reload, h]

/-- It fails if there is none. -/
theorem reload_of_path?_eq_none {life : Lifecycle} (h : life.path? = none) (view : View) :
    life.reload view = (.error .notLoaded, life) := by
  simp only [reload, h]

/-- All that a request can do: it fails and the life is as before, or it publishes one load. -/
theorem serve_cases (life : Lifecycle) (view : View) (request : Request) :
    (∃ e, life.serve view request = (.error e, life)) ∨
      ∃ path load, Loaded.ofFile view path = .ok load ∧
        life.serve view request = (.ok (), life.publish load) := by
  have hload (path : Path) : (∃ e, life.load view path = (.error e, life)) ∨
      ∃ path' load, Loaded.ofFile view path' = .ok load ∧
        life.load view path = (.ok (), life.publish load) := by
    cases h : Loaded.ofFile view path with
    | error e => exact Or.inl ⟨e, load_of_error h life⟩
    | ok load => exact Or.inr ⟨path, load, h, load_of_ok h life⟩
  cases request with
  | load path => exact hload path
  | reload =>
    cases hpath : life.path? with
    | none => exact Or.inl ⟨.notLoaded, reload_of_path?_eq_none hpath view⟩
    | some path =>
      rw [serve, reload_of_path?_eq_some hpath]
      exact hload path

/-- A request that fails leaves everything as it was. -/
theorem eq_of_serve_eq_error {life next : Lifecycle} {view : View} {request : Request}
    {e : ConfigError} (h : life.serve view request = (.error e, next)) : next = life := by
  rcases serve_cases life view request with ⟨e', hserve⟩ | ⟨path, load, -, hserve⟩
  · exact (Prod.mk.inj (h.symm.trans hserve)).2
  · cases h.symm.trans hserve

/-! ## What the loads make -/

/-- A request that has a file loads it. -/
theorem ofLoads_serve_of_target? {fallback : Snapshot} {past : List Loaded} {request : Request}
    {path : Path} (h : request.target? past = some path) (view : View) :
    (ofLoads fallback past).serve view request = (ofLoads fallback past).load view path := by
  cases request with
  | load path' =>
    obtain rfl := Option.some.inj h
    rfl
  | reload => exact reload_of_path?_eq_some ((ofLoads_path? fallback past).trans h) view

/-- A request that has no file fails. -/
theorem ofLoads_serve_of_target?_eq_none {fallback : Snapshot} {past : List Loaded}
    {request : Request} (h : request.target? past = none) (view : View) :
    (ofLoads fallback past).serve view request = (.error .notLoaded, ofLoads fallback past) := by
  cases request with
  | load path => cases h
  | reload => exact reload_of_path?_eq_none ((ofLoads_path? fallback past).trans h) view

variable (fallback : Snapshot) (past : List Loaded)

/-- A request fails and no load is added, or it loads the file that it asks for and puts the load
before the loads so far. -/
theorem ofLoads_serve_cases (view : View) (request : Request) :
    (∃ e, (ofLoads fallback past).serve view request = (.error e, ofLoads fallback past) ∧
      loadsAfter past view request = past) ∨
    (∃ path load, Loaded.ofFile view path = .ok load ∧
      (ofLoads fallback past).serve view request = (.ok (), ofLoads fallback (load :: past)) ∧
      loadsAfter past view request = load :: past) := by
  cases htarget : request.target? past with
  | none =>
    exact Or.inl ⟨.notLoaded, ofLoads_serve_of_target?_eq_none htarget view,
      by simp only [loadsAfter, htarget]⟩
  | some path =>
    rw [ofLoads_serve_of_target? htarget]
    cases h : Loaded.ofFile view path with
    | error e => exact Or.inl ⟨e, load_of_error h _, by simp only [loadsAfter, htarget, h]⟩
    | ok load =>
      refine Or.inr ⟨path, load, h, ?_, by simp only [loadsAfter, htarget, h]⟩
      rw [load_of_ok h, ofLoads_publish]

/-- One request leads from what the loads make to what the loads after it make. -/
theorem ofLoads_serve (view : View) (request : Request) :
    ((ofLoads fallback past).serve view request).2 =
      ofLoads fallback (loadsAfter past view request) := by
  rcases ofLoads_serve_cases fallback past view request with
    ⟨e, hserve, hloads⟩ | ⟨path, load, -, hserve, hloads⟩
  · rw [hserve, hloads]
  · rw [hserve, hloads]

/-- So does a sequence of requests. -/
theorem ofLoads_run (requests : List (View × Request)) :
    (ofLoads fallback past).run requests = ofLoads fallback (loadsOf past requests) := by
  induction requests generalizing past with
  | nil => rfl
  | cons first rest ih =>
    obtain ⟨view, request⟩ := first
    rw [run_cons, ofLoads_serve, loadsOf_cons]
    exact ih _

/-- Every way to start is what the loads by then make. -/
theorem Starts.eq_ofLoads {life : Lifecycle} {fallback : Snapshot} {past : List Loaded}
    (h : Starts life fallback past) : life = ofLoads fallback past := by
  cases h with
  | standard => rfl
  | ofFallback => rfl
  | ofFile _ hlife hload =>
    rw [Lifecycle.ofFile, hload] at hlife
    exact (Except.ok.inj hlife).symm

variable {fallback past}

/-- The requests that fail can be left out: they leave the life as it was, so that the others find
it as they would without them. -/
theorem run_succeeding (life : Lifecycle) (requests : List (View × Request)) :
    life.run (life.succeeding requests) = life.run requests := by
  induction requests generalizing life with
  | nil => rfl
  | cons first rest ih =>
    obtain ⟨view, request⟩ := first
    rw [succeeding, run_cons]
    rcases hserve : life.serve view request with ⟨e | ⟨⟩, next⟩
    · obtain rfl := eq_of_serve_eq_error hserve
      exact ih next
    · simp only [run_cons, hserve]
      exact ih next

/-- Each request that succeeds adds one load. -/
theorem length_loadsOf (fallback : Snapshot) (past : List Loaded)
    (requests : List (View × Request)) :
    (loadsOf past requests).length =
      past.length + ((ofLoads fallback past).succeeding requests).length := by
  induction requests generalizing past with
  | nil => rfl
  | cons first rest ih =>
    obtain ⟨view, request⟩ := first
    rw [loadsOf_cons, ih, succeeding]
    rcases ofLoads_serve_cases fallback past view request with
      ⟨e, hserve, hloads⟩ | ⟨path, load, -, hserve, hloads⟩
    · rw [hserve, hloads]
    · rw [hserve, hloads]
      simp only [List.length_cons]
      omega

/-- Every load in the sequence is one from a file. -/
theorem exists_ofFile_of_mem_loadsOf {requests : List (View × Request)}
    (hpast : ∀ load ∈ past, ∃ view path, Loaded.ofFile view path = .ok load) :
    ∀ load ∈ loadsOf past requests, ∃ view path, Loaded.ofFile view path = .ok load := by
  induction requests generalizing past with
  | nil => exact hpast
  | cons first rest ih =>
    obtain ⟨view, request⟩ := first
    rw [loadsOf_cons]
    rcases ofLoads_serve_cases Default.snapshot past view request with
      ⟨e, -, hloads⟩ | ⟨path, load, hload, -, hloads⟩
    · rw [hloads]
      exact ih hpast
    · rw [hloads]
      exact ih (List.forall_mem_cons.2 ⟨⟨view, path, hload⟩, hpast⟩)

/-- Loads that a life starts with are from files, too. -/
theorem Starts.exists_ofFile {life : Lifecycle} (h : Starts life fallback past) :
    ∀ load ∈ past, ∃ view path, Loaded.ofFile view path = .ok load := by
  cases h with
  | standard => exact List.forall_mem_nil _
  | ofFallback => exact List.forall_mem_nil _
  | ofFile _ hlife hload => exact List.forall_mem_singleton.2 ⟨_, _, hload⟩

/-- A life from a file starts with one load, whatever it might have fallen back on. -/
theorem exists_starts_of_ofFile {view : View} {path : Path} {life : Lifecycle}
    (h : ofFile view path = .ok life) (fallback : Snapshot) :
    ∃ past, Starts life fallback past := by
  obtain ⟨load, hload, -⟩ := map_eq_ok_iff.1 h
  exact ⟨[load], .ofFile fallback h hload⟩

/-- The snapshot that is current after a run is the fallback or has been built from a document. -/
theorem Starts.snapshot_run_cases {life : Lifecycle} (hstart : Starts life fallback past)
    (requests : List (View × Request)) :
    loadsOf past requests = [] ∧ (life.run requests).snapshot = fallback ∨
      ∃ view path document, (Document.load view path).1 = .ok document ∧
        build document.root = .ok (life.run requests).snapshot := by
  have hfile : ∀ load ∈ loadsOf past requests, ∃ view path, Loaded.ofFile view path = .ok load :=
    exists_ofFile_of_mem_loadsOf hstart.exists_ofFile
  rw [hstart.eq_ofLoads, ofLoads_run, ofLoads_snapshot]
  rcases hloads : loadsOf past requests with _ | ⟨latest, older⟩
  · exact Or.inl ⟨rfl, rfl⟩
  · obtain ⟨view, path, hlatest⟩ := hfile latest (hloads ▸ List.mem_cons_self)
    obtain ⟨document, hdocument, hbuild, -, -⟩ := Loaded.ofFile_eq_ok_iff.1 hlatest
    exact Or.inr ⟨view, path, document, hdocument, hbuild⟩

/-- What holds of the built-in snapshot and of every snapshot that is built holds of the current one
at any time, in a life from the built-in configuration or from a first load on. -/
theorem snapshot_run_of_build {holds : Snapshot → Prop} (hdefault : holds Default.snapshot)
    (hbuild : ∀ root snapshot, build root = .ok snapshot → holds snapshot) {life : Lifecycle}
    (hlife : life = .standard ∨ ∃ view path, ofFile view path = .ok life)
    (requests : List (View × Request)) : holds (life.run requests).snapshot := by
  obtain ⟨past, hstart⟩ : ∃ past, Starts life Default.snapshot past := by
    rcases hlife with rfl | ⟨view, path, hfile⟩
    · exact ⟨[], .standard⟩
    · exact exists_starts_of_ofFile hfile _
  rcases hstart.snapshot_run_cases requests with ⟨-, hfallback⟩ | ⟨view, path, document, -, hbuilt⟩
  · rw [hfallback]
    exact hdefault
  · exact hbuild document.root _ hbuilt

/-- To load again fails for want of an earlier load exactly if there is none. -/
theorem reload_ofLoads_eq_notLoaded_iff (view : View) :
    ((ofLoads fallback past).reload view).1 = .error .notLoaded ↔ past = [] := by
  cases past with
  | nil => exact ⟨fun _ => rfl, fun _ => rfl⟩
  | cons latest older =>
    have hreload : (ofLoads fallback (latest :: older)).reload view =
        (ofLoads fallback (latest :: older)).load view latest.path := rfl
    have hne := Loaded.ofFile_ne_notLoaded view latest.path
    rw [hreload]
    cases h : Loaded.ofFile view latest.path with
    | ok load => simp [load_of_ok h]
    | error e =>
      rw [h] at hne
      simpa [load_of_error h] using hne

/-- However the files change, a life is at every time what its successful loads make of it. The
counters are machine words: they tell the number of loads up to the size of a word, and hence the
number itself while it is below. A request that fails changes nothing, and to load again means the
latest load. -/
theorem run_tracks_loads {life : Lifecycle} (hstart : Starts life fallback past)
    (requests : List (View × Request)) :
    let final := life.run requests
    let loads := loadsOf past requests
    loads.length = past.length + (life.succeeding requests).length ∧
      final.generation = UInt64.ofNat loads.length ∧
      final.released = UInt64.ofNat (loads.length - 1) ∧
      (loads.length < UInt64.size →
        final.generation.toNat = loads.length ∧ final.released.toNat = loads.length - 1) ∧
      (final.state = .loaded ↔ loads ≠ []) ∧
      final.snapshot = (loads.head?.map Loaded.snapshot).getD fallback ∧
      final.path? = loads.head?.map Loaded.path ∧
      final.sources = (loads.head?.map Loaded.sources).getD [] ∧
      final.sources.head? = final.path? ∧
      (∀ load ∈ loads, ∃ view document, (Document.load view load.path).1 = .ok document ∧
        build document.root = .ok load.snapshot ∧ load.sources = document.files) ∧
      life.run (life.succeeding requests) = final ∧
      (∀ view request e next, final.serve view request = (.error e, next) → next = final) ∧
      (∀ view, (final.reload view).1 = .error .notLoaded ↔ loads = []) ∧
      ∀ view, ∀ latest ∈ loads.head?, final.reload view = final.load view latest.path := by
  intro final loads
  have hlife := hstart.eq_ofLoads
  have hfinal : final = ofLoads fallback loads := by
    rw [← ofLoads_run, ← hlife]
  have hfile : ∀ load ∈ loads, ∃ view path, Loaded.ofFile view path = .ok load :=
    exists_ofFile_of_mem_loadsOf hstart.exists_ofFile
  have hlength : loads.length = past.length + (life.succeeding requests).length := by
    rw [hlife]
    exact length_loadsOf fallback past requests
  have hgeneration : final.generation = UInt64.ofNat loads.length := by
    rw [hfinal, ofLoads_generation]
  have hreleased : final.released = UInt64.ofNat (loads.length - 1) := by
    rw [hfinal, ofLoads_released]
  refine ⟨hlength, hgeneration, hreleased, fun hsize => ⟨?_, ?_⟩, ?_, ?_, ?_, ?_, ?_, ?_,
    run_succeeding life requests, fun view request e next h => eq_of_serve_eq_error h, ?_, ?_⟩
  · rw [hgeneration, UInt64.toNat_ofNat_of_lt' hsize]
  · rw [hreleased, UInt64.toNat_ofNat_of_lt' (Nat.lt_of_le_of_lt (Nat.sub_le _ 1) hsize)]
  · rw [hfinal, ofLoads_state]
  · rw [hfinal, ofLoads_snapshot]
  · rw [hfinal, ofLoads_path?]
  · rw [hfinal, ofLoads_sources]
  · rw [hfinal, ofLoads_sources, ofLoads_path?]
    rcases hloads : loads with _ | ⟨latest, older⟩
    · rfl
    · obtain ⟨view, path, hlatest⟩ := hfile latest (hloads ▸ List.mem_cons_self)
      exact Loaded.sources_head? hlatest
  · intro load hload
    obtain ⟨view, path, hofFile⟩ := hfile load hload
    obtain ⟨document, hdocument, hbuild, rfl, hsources⟩ := Loaded.ofFile_eq_ok_iff.1 hofFile
    exact ⟨view, document, hdocument, hbuild, hsources⟩
  · intro view
    rw [hfinal]
    exact reload_ofLoads_eq_notLoaded_iff view
  · intro view latest hlatest
    refine reload_of_path?_eq_some ?_ view
    rw [hfinal, ofLoads_path?, Option.mem_def.1 hlatest, Option.map_some]

end Lifecycle

end

open scoped Parsers

/-- A file is loaded, vanishes, and is asked for again. -/
theorem Lifecycle.run_tracks_vanished_file :
    let empty : View := ⟨fun _ => .ok "", fun _ => true, fun _ => none⟩
    let nothing : View := ⟨fun _ => .error .notFound, fun _ => false, fun _ => none⟩
    let final := standard.run [(empty, .load ⟨"a.toml"⟩), (nothing, .reload)]
    final.generation.toNat = 1 ∧ final.released.toNat = 0 ∧ final.path? = some ⟨"a.toml"⟩ := by
  intro empty nothing final
  have hpaths : (loadsOf [] [(empty, .load ⟨"a.toml"⟩), (nothing, .reload)]).map Loaded.path =
      [⟨"a.toml"⟩] := by decide +kernel
  have hlength := congrArg List.length hpaths
  rw [List.length_map] at hlength
  obtain ⟨-, -, -, hcounters, -, -, hpath, -⟩ :=
    run_tracks_loads .standard [(empty, .load ⟨"a.toml"⟩), (nothing, .reload)]
  obtain ⟨hgeneration, hreleased⟩ := hcounters (by rw [hlength]; decide)
  refine ⟨hgeneration.trans hlength, hreleased.trans (by rw [hlength]; rfl), hpath.trans ?_⟩
  rw [← List.head?_map, hpaths]
  rfl

end TilingConfig
