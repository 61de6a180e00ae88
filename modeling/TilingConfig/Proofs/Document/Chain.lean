import TilingConfig.Proofs.Document.Inclusion
import TilingConfig.Proofs.Document.Machine

/-!
# Chains of includes

A chain is a sequence of files each of which includes the next, as their texts say. The
files that are open at any time of a reading make up a chain, with no file twice and no
more files than includes may be nested. That is an invariant of the machine.
-/

namespace TilingConfig.Document

open TilingConfig.Files Machine

variable [Parsers]

/-- The targets of the include directives of a text; one that cannot be parsed has none. -/
def targetsOf (surface : Surface) (text : String) : List String :=
  match surface with
  | .yaml =>
    match Parsers.yaml text.toList with
    | .ok node => node.targets
    | .error _ => []
  | .toml =>
    match Parsers.toml text.toList with
    | .ok entries => Toml.targetsIn entries
    | .error _ => []

/-- A text asks for the targets of its directives in order. -/
theorem asks_convert (surface : Surface) (text : String) :
    (convert surface text).Asks (targetsOf surface text) := by
  cases surface with
  | yaml =>
    rw [convert, targetsOf]
    cases Parsers.yaml text.toList with
    | error fault =>
      simp only [yamlFault]
      split <;> exact .failed _ _ _ _
    | ok node =>
      cases node with
      | null => exact .done []
      | mapping entries => exact Yaml.asks_settingsOf entries
      | _ => exact .failed _ _ _ _
  | toml =>
    rw [convert, targetsOf]
    cases Parsers.toml text.toList with
    | error fault => exact .failed _ _ _ _
    | ok entries => exact Toml.asks_settingsOf entries

/-- The files that a text of the file `source` includes. -/
def includedIn (surface : Surface) (source : Path) (text : String) : List Path :=
  (targetsOf surface text).map fun target => resolveTarget source ⟨target⟩

/-- Where a reading starts. -/
inductive Start where
  /-- At a file. -/
  | atFile (path : Path)
  /-- At a text in the place of the file `origin`. -/
  | inText (surface : Surface) (origin : Path) (text : String)

namespace Start

/-- The outermost file. -/
def path : Start → Path
  | .atFile path => path
  | .inText _ origin _ => origin

/-- The document that is read from the start. -/
def document (view : View) : Start → Except ConfigError Document × Log.Journal
  | .atFile path => load view path
  | .inText surface origin text => ofText view surface origin text

/-- The machine at the start. -/
def machine (view : View) : Start → Machine
  | .atFile path => ⟨.read path, [], .start⟩
  | .inText surface origin text =>
    ⟨.convert origin (convert surface text), [],
      { Loader.start with chain := [view.identity origin] }⟩

/-- The files that the outermost text includes. -/
def includes (view : View) : Start → List Path
  | .atFile path =>
    match view.read path with
    | .ok text => includedIn (.ofPath path) path text
    | .error _ => []
  | .inText surface origin text => includedIn surface origin text

/-- The files that `last` includes inside the files `outer`. -/
def includesOf (view : View) (start : Start) (last : Path) (outer : List Path) : List Path :=
  match outer with
  | [] => start.includes view
  | _ :: _ => (Start.atFile last).includes view

/-- The files that are open while such frames wait, the innermost first. -/
def opened (start : Start) : List Frame → List Path
  | [] =>
    match start with
    | .atFile _ => []
    | .inText _ origin _ => [origin]
  | .leave path :: waiting => path :: start.opened waiting
  | .resume _ _ :: waiting => start.opened waiting

end Start

/-- Files each of which is included by the one after it, down to the outermost. -/
inductive Chain (view : View) (start : Start) : List Path → Prop where
  | first : Chain view start [start.path]
  | deeper {path last : Path} {outer : List Path} (h : Chain view start (last :: outer))
      (hpath : path ∈ start.includesOf view last outer) : Chain view start (path :: last :: outer)

variable {view : View} {start : Start}

theorem includes_file {path : Path} {text : String} (htext : view.read path = .ok text) :
    (Start.atFile path).includes view = includedIn (.ofPath path) path text := by
  simp only [Start.includes, htext]

/-- A file that is read from a path includes what its text says, wherever it stands. -/
theorem includesOf_opened {path : Path} {waiting : List Frame}
    (h : Chain view start (path :: start.opened waiting)) :
    start.includesOf view path (start.opened waiting) = (Start.atFile path).includes view := by
  cases start with
  | atFile main =>
    generalize (Start.atFile main).opened waiting = files at h
    cases h with
    | first => rfl
    | deeper _ _ => rfl
  | inText surface origin text =>
    have hne : (Start.inText surface origin text).opened waiting ≠ [] := by
      clear h
      induction waiting with
      | nil => exact List.cons_ne_nil _ _
      | cons frame rest ih =>
        cases frame with
        | leave path => exact List.cons_ne_nil _ _
        | resume source next => exact ih
    obtain ⟨last, outer, hfiles⟩ := List.exists_cons_of_ne_nil hne
    rw [hfiles]
    rfl

/-- A conversion of `source` asks for nothing but what `source` includes inside `outer`. -/
def AsksWithin (view : View) (start : Start) (source : Path) (outer : List Path)
    (conversion : Conversion Group) : Prop :=
  ∃ targets, conversion.Asks targets ∧
    ∀ target ∈ targets, resolveTarget source ⟨target⟩ ∈ start.includesOf view source outer

/-- Something is done in the innermost of the open files, which make up a chain. -/
def WorksIn (view : View) (start : Start) (source : Path) (files : List Path)
    (conversion : Conversion Group) : Prop :=
  ∃ outer, files = source :: outer ∧ Chain view start files ∧
    AsksWithin view start source outer conversion

/-- What is true of a task while these files are open. -/
def Task.Sound (view : View) (start : Start) (files : List Path) : Task → Prop
  | .read path => Chain view start (path :: files)
  | .convert source conversion => WorksIn view start source files conversion
  | .handBack _ => True

/-- What is true of the frames that wait. -/
def WaitingSound (view : View) (start : Start) : List Frame → Prop
  | [] => True
  | .leave _ :: waiting => WaitingSound view start waiting
  | .resume source next :: waiting =>
    (∀ group, WorksIn view start source (start.opened waiting) (next group)) ∧
      WaitingSound view start waiting

/-- What is true of every state: the chain is that of the open files, which are different files
and not too many, and all that is read or converted belongs to the innermost of them. -/
structure Machine.Sound (view : View) (start : Start) (machine : Machine) : Prop where
  chain : machine.loader.chain = (start.opened machine.waiting).map view.identity
  nodup : machine.loader.chain.Nodup
  depth : machine.loader.chain.length ≤ includeDepth + 1
  task : machine.task.Sound view start (start.opened machine.waiting)
  waiting : WaitingSound view start machine.waiting

theorem Start.sound_machine (view : View) (start : Start) :
    (start.machine view).Sound view start := by
  cases start with
  | atFile path =>
    exact ⟨rfl, List.nodup_nil, Nat.zero_le _, .first, .intro⟩
  | inText surface origin text =>
    refine ⟨rfl, List.pairwise_singleton _ _, Nat.le_add_left 1 _, ?_, .intro⟩
    refine ⟨[], rfl, .first, _, asks_convert surface text, fun target htarget => ?_⟩
    exact List.mem_map_of_mem htarget

private theorem Machine.Sound.step_read {path : Path} {waiting : List Frame} {loader : Loader}
    {next : Machine} (h : Machine.Sound view start ⟨.read path, waiting, loader⟩)
    (hstep : Machine.step view ⟨.read path, waiting, loader⟩ = some next) :
    next.Sound view start := by
  obtain ⟨hchain, hnodup, hdepth, htask, hwaiting⟩ := h
  rcases step_read_cases view path waiting loader with
    ⟨-, he⟩ | ⟨-, -, he⟩ | ⟨cause, -, -, -, he⟩ | ⟨text, hroomy, hfile, htext, he⟩
  · obtain rfl := Option.some.inj (he.symm.trans hstep)
    exact ⟨hchain, hnodup, hdepth, .intro, hwaiting⟩
  · obtain rfl := Option.some.inj (he.symm.trans hstep)
    exact ⟨hchain, hnodup, hdepth, .intro, hwaiting⟩
  · obtain rfl := Option.some.inj (he.symm.trans hstep)
    exact ⟨hchain, hnodup, hdepth, .intro, hwaiting⟩
  · obtain rfl := Option.some.inj (he.symm.trans hstep)
    refine ⟨congrArg (view.identity path :: ·) hchain, List.nodup_cons.2 ⟨hfile, hnodup⟩,
      Nat.succ_le_succ hroomy, ?_, hwaiting⟩
    refine ⟨start.opened waiting, rfl, htask, _, asks_convert _ text, fun target htarget => ?_⟩
    rw [includesOf_opened htask, includes_file htext]
    exact List.mem_map_of_mem htarget

private theorem Machine.Sound.step_convert {source : Path} {conversion : Conversion Group}
    {waiting : List Frame} {loader : Loader} {next : Machine}
    (h : Machine.Sound view start ⟨.convert source conversion, waiting, loader⟩)
    (hstep : Machine.step view ⟨.convert source conversion, waiting, loader⟩ = some next) :
    next.Sound view start := by
  obtain ⟨hchain, hnodup, hdepth, ⟨outer, hfiles, hfilesChain, targets, hasks, htargets⟩,
    hwaiting⟩ := h
  cases hasks with
  | done group =>
    obtain rfl := Option.some.inj hstep
    exact ⟨hchain, hnodup, hdepth, .intro, hwaiting⟩
  | failed line column fault targets =>
    obtain rfl := Option.some.inj hstep
    exact ⟨hchain, hnodup, hdepth, .intro, hwaiting⟩
  | included hnext =>
    obtain ⟨htarget, hrest⟩ := List.forall_mem_cons.1 htargets
    obtain rfl := Option.some.inj hstep
    refine ⟨hchain, hnodup, hdepth, ?_, fun group => ?_, hwaiting⟩
    · change Chain view start (_ :: start.opened waiting)
      rw [hfiles] at hfilesChain ⊢
      exact .deeper hfilesChain htarget
    · exact ⟨outer, hfiles, hfilesChain, _, hnext group, hrest⟩

private theorem Machine.Sound.step_handBack {result : Except ConfigError Group}
    {waiting : List Frame} {loader : Loader} {next : Machine}
    (h : Machine.Sound view start ⟨.handBack result, waiting, loader⟩)
    (hstep : Machine.step view ⟨.handBack result, waiting, loader⟩ = some next) :
    next.Sound view start := by
  obtain ⟨hchain, hnodup, hdepth, -, hwaiting⟩ := h
  rcases waiting with _ | ⟨⟨source, resume⟩ | path, rest⟩
  · cases result <;> cases hstep
  · cases result with
    | error e =>
      obtain rfl := Option.some.inj hstep
      exact ⟨hchain, hnodup, hdepth, .intro, hwaiting.2⟩
    | ok group =>
      obtain rfl := Option.some.inj hstep
      exact ⟨hchain, hnodup, hdepth, hwaiting.1 group, hwaiting.2⟩
  · have hleave : loader.chain.drop 1 = (start.opened rest).map view.identity := by
      rw [hchain]
      rfl
    have hsublist : (loader.chain.drop 1).Sublist loader.chain := List.drop_sublist 1 _
    obtain rfl : ofOutcome rest (result, loader.leave) = next := by
      cases result <;> exact Option.some.inj hstep
    exact ⟨hleave, hnodup.sublist hsublist, Nat.le_trans hsublist.length_le hdepth, .intro,
      hwaiting⟩

/-- Each step keeps this up. -/
theorem Machine.Sound.step {machine next : Machine} (h : machine.Sound view start)
    (hstep : machine.step view = some next) : next.Sound view start := by
  rcases machine with ⟨path | ⟨source, conversion⟩ | result, waiting, loader⟩
  · exact h.step_read hstep
  · exact h.step_convert hstep
  · exact h.step_handBack hstep

/-- So it is true of every state that is reached. -/
theorem Machine.Steps.sound {machine : Machine} (h : Steps view (start.machine view) machine) :
    machine.Sound view start := by
  induction h with
  | refl => exact start.sound_machine view
  | tail _ hstep ih => exact ih.step hstep

end TilingConfig.Document
