import TilingConfig.Proofs.Document.Chain

/-!
# Include expansion

The reading of includes always ends. A file is refused for what stands on its chain only,
and where a reading succeeds, every chain of includes is of different files and not too
long.
-/

namespace TilingConfig.Document

open TilingConfig.Files Machine

variable [Parsers] {view : View} {start : Start}

/-- The error is no refusal, or the file has been refused on its chain for good reason. -/
def Refused (view : View) (start : Start) : ConfigError → Prop
  | .includeCycle path => ∃ waiting loader,
      Steps view (start.machine view) ⟨.read path, waiting, loader⟩ ∧
        view.identity path ∈ (start.opened waiting).map view.identity
  | .includeDepth path => ∃ waiting loader,
      Steps view (start.machine view) ⟨.read path, waiting, loader⟩ ∧
        (start.opened waiting).length = includeDepth + 1
  | _ => True

/-- An error that is handed back for the first time is one of a file or of a text. -/
private theorem refused_of_step_read {path : Path} {waiting : List Frame} {loader : Loader}
    {next : Machine} (h : Steps view (start.machine view) ⟨.read path, waiting, loader⟩)
    (hstep : Machine.step view ⟨.read path, waiting, loader⟩ = some next) {e : ConfigError}
    (he : next.task = .handBack (.error e)) : Refused view start e := by
  obtain ⟨hchain, -, hdepth, -, -⟩ := h.sound
  rcases step_read_cases view path waiting loader with
    ⟨hdeep, hnext⟩ | ⟨-, hfile, hnext⟩ | ⟨cause, -, -, -, hnext⟩ | ⟨text, -, -, -, hnext⟩
  · obtain rfl := Option.some.inj (hnext.symm.trans hstep)
    obtain rfl : .includeDepth path = e := by simpa [ofOutcome] using he
    refine ⟨waiting, loader, h, ?_⟩
    rw [← List.length_map (f := view.identity), ← hchain]
    exact Nat.le_antisymm hdepth hdeep
  · obtain rfl := Option.some.inj (hnext.symm.trans hstep)
    obtain rfl : .includeCycle path = e := by simpa [ofOutcome] using he
    exact ⟨waiting, loader, h, hchain ▸ hfile⟩
  · obtain rfl := Option.some.inj (hnext.symm.trans hstep)
    obtain rfl : .unreadable path cause = e := by simpa [ofOutcome] using he
    exact .intro
  · obtain rfl := Option.some.inj (hnext.symm.trans hstep)
    cases he

/-- Errors are handed on as they are, so that every refusal has happened. -/
theorem Machine.Steps.refused {machine : Machine} (h : Steps view (start.machine view) machine)
    {e : ConfigError} (he : machine.task = .handBack (.error e)) : Refused view start e := by
  induction h generalizing e with
  | refl => cases start <;> cases he
  | @tail middle last hmiddle hstep ih =>
    rcases middle with ⟨path | ⟨source, conversion⟩ | result, waiting, loader⟩
    · exact refused_of_step_read hmiddle hstep he
    · cases conversion with
      | failed line column fault =>
        obtain rfl := Option.some.inj hstep
        obtain rfl : .badSyntax source line column fault = e := by simpa [ofOutcome] using he
        exact .intro
      | _ =>
        obtain rfl := Option.some.inj hstep
        cases he
    · cases result with
      | error e' =>
        obtain rfl : e' = e := by
          rcases waiting with _ | ⟨⟨source, resume⟩ | path, rest⟩
          · cases hstep
          all_goals
            obtain rfl := Option.some.inj hstep
            simpa [ofOutcome] using he
        exact ih rfl
      | ok group =>
        rcases waiting with _ | ⟨⟨source, resume⟩ | path, rest⟩
        · cases hstep
        all_goals
          obtain rfl := Option.some.inj hstep
          cases he

/-- All targets on a chain have been found to be different files, and not too many, and the
innermost of them has been converted. -/
def Covered (view : View) (start : Start) : List Path → Prop
  | [] => False
  | last :: outer =>
    ((last :: outer).map view.identity).Nodup ∧
      ∃ (room : Nat) (conversion : Conversion Group) (group : Group) (within : List Path)
        (targets : List String),
        room + (last :: outer).length = includeDepth + 1 ∧
        conversion.Asks targets ∧
        start.includesOf view last outer =
          targets.map (fun target => resolveTarget last ⟨target⟩) ∧
        conversion.Yields (Given view room ((last :: outer).map view.identity) last) group within

/-- A file that has been read inside a chain makes a longer one. -/
private theorem covered_of_reads {room : Nat} {path : Path} {outer : List Path} {group : Group}
    {files : List Path} (hnodup : (outer.map view.identity).Nodup)
    (hroom : room + outer.length = includeDepth + 1)
    (hincludes : start.includesOf view path outer = (Start.atFile path).includes view)
    (h : Reads view room (outer.map view.identity) path group files) :
    Covered view start (path :: outer) := by
  cases room with
  | zero => exact h.elim
  | succ room =>
    obtain ⟨hfile, text, within, htext, hyields, -⟩ := reads_succ_iff.1 h
    refine ⟨List.nodup_cons.2 ⟨hfile, hnodup⟩, room, _, group, within, _, ?_, asks_convert _ text,
      ?_, hyields⟩
    · rw [List.length_cons]
      omega
    · rw [hincludes, includes_file htext, includedIn]

/-- Where a reading succeeds, every chain is covered. -/
theorem Chain.covered {document : Document} (hok : (start.document view).1 = .ok document)
    {files : List Path} (h : Chain view start files) : Covered view start files := by
  induction h with
  | first =>
    cases start with
    | atFile path =>
      exact covered_of_reads List.nodup_nil rfl rfl (load_eq_ok_iff_reads.1 hok)
    | inText surface origin text =>
      exact ⟨List.pairwise_singleton _ _, includeDepth, _, _, _, _, rfl, asks_convert surface text,
        rfl, ofText_eq_ok_iff_yields.1 hok⟩
  | @deeper path last outer h hpath ih =>
    obtain ⟨hnodup, room, conversion, _, _, targets, hroom, hasks, hincludes, hyields⟩ := ih
    rw [hincludes] at hpath
    obtain ⟨target, htarget, rfl⟩ := List.mem_map.1 hpath
    obtain ⟨group', files, hgiven⟩ := hyields.exists_given hasks target htarget
    exact covered_of_reads hnodup hroom rfl hgiven

/-- The machine comes to the document of its start. -/
theorem Start.steps_document (view : View) (start : Start) :
    ∃ result after, Steps view (start.machine view) ⟨.handBack result, [], after⟩ ∧
      start.document view = (result.map fun root => ⟨root, after.files⟩, after.journal) := by
  cases start with
  | atFile path => exact ⟨_, _, steps_readFile path [] rfl, rfl⟩
  | inText surface origin text => exact ⟨_, _, steps_convert origin _ [] rfl, rfl⟩

/-- What is true whenever a file is about to be read. -/
structure Machine.ReadSound (view : View) (start : Start) (path : Path) (waiting : List Frame)
    (loader : Loader) : Prop where
  /-- The chain is that of the open files. -/
  chain : loader.chain = (start.opened waiting).map view.identity
  /-- Each of them includes the next, and the innermost includes this one. -/
  files : Chain view start (path :: start.opened waiting)
  /-- They are different files. -/
  nodup : loader.chain.Nodup
  /-- They are not too many. -/
  depth : loader.chain.length ≤ includeDepth + 1
  /-- The reading of the file ends. -/
  ends : ∃ result after,
    Steps view ⟨.read path, waiting, loader⟩ ⟨.handBack result, waiting, after⟩
  /-- However it ends, the chain is the same again. -/
  restored : ∀ result after,
    Steps view ⟨.read path, waiting, loader⟩ ⟨.handBack result, waiting, after⟩ →
      after.chain = loader.chain
  /-- The file is refused for a cycle exactly if it is open. -/
  cycle_iff : Machine.step view ⟨.read path, waiting, loader⟩ =
      some ⟨.handBack (.error (.includeCycle path)), waiting, loader⟩ ↔
    (start.opened waiting).length ≤ includeDepth ∧
      view.identity path ∈ (start.opened waiting).map view.identity
  /-- The file is refused for its depth exactly if the chain is full. -/
  depth_iff : Machine.step view ⟨.read path, waiting, loader⟩ =
      some ⟨.handBack (.error (.includeDepth path)), waiting, loader⟩ ↔
    (start.opened waiting).length = includeDepth + 1

/-- It is true of every state that is reached in which a file is about to be read. -/
theorem Machine.Steps.readSound {path : Path} {waiting : List Frame} {loader : Loader}
    (h : Steps view (start.machine view) ⟨.read path, waiting, loader⟩) :
    Machine.ReadSound view start path waiting loader := by
  obtain ⟨hchain, hnodup, hdepth, htask, -⟩ := h.sound
  have hlength : loader.chain.length = (start.opened waiting).length := by
    rw [hchain, List.length_map]
  obtain ⟨room, hroom⟩ := Nat.exists_eq_add_of_le' hdepth
  have hrestored (result : Except ConfigError Group) (after : Loader)
      (hafter : Steps view ⟨.read path, waiting, loader⟩ ⟨.handBack result, waiting, after⟩) :
      after.chain = loader.chain := by
    rw [hchain]
    exact (h.trans hafter).sound.chain
  refine ⟨hchain, htask, hnodup, hdepth, ⟨_, _, steps_readFile path waiting hroom.symm⟩,
    hrestored, ?_, ?_⟩
  · rw [← hlength, ← hchain]
    rcases step_read_cases view path waiting loader with
      ⟨hdeep, he⟩ | ⟨hroomy, hfile, he⟩ | ⟨cause, -, hfile, -, he⟩ | ⟨text, -, hfile, -, he⟩
    · simp [he, ofOutcome, Nat.not_le.2 hdeep]
    · simp [he, ofOutcome, hroomy, hfile]
    · simp [he, ofOutcome, hfile]
    · simp [he, hfile]
  · rw [← hlength]
    rcases step_read_cases view path waiting loader with
      ⟨hdeep, he⟩ | ⟨hroomy, -, he⟩ | ⟨cause, hroomy, -, -, he⟩ | ⟨text, hroomy, -, -, he⟩
    · simp [he, ofOutcome, Nat.le_antisymm hdepth hdeep]
    all_goals
      have hne : loader.chain.length ≠ includeDepth + 1 := by omega
      simp [he, ofOutcome, hne]

/-- The error of a document is one that the machine hands back. -/
theorem Start.refused_document {e : ConfigError} (h : (start.document view).1 = .error e) :
    Refused view start e := by
  obtain ⟨result, after, hsteps, hdocument⟩ := start.steps_document view
  rw [hdocument] at h
  cases result with
  | ok group => simp [Except.map] at h
  | error e' =>
    obtain rfl : e' = e := by simpa [Except.map] using h
    exact hsteps.refused rfl

/-- A chain that is covered has no file twice and is not too long. -/
theorem Covered.bounds {files : List Path} (h : Covered view start files) :
    (files.map view.identity).Nodup ∧ files.length ≤ includeDepth + 1 := by
  cases files with
  | nil => exact h.elim
  | cons last outer =>
    obtain ⟨hnodup, room, -, -, -, -, hroom, -⟩ := h
    exact ⟨hnodup, by omega⟩

/-- The reading of includes comes to an end, whatever the files hold, and with the document of its
start. Files are refused on their chain only: a document that fails for a cycle has reached a file
that is open, and one that fails for depth has reached the eleventh include of a chain. Where there
is a document, no chain of includes enters a file twice or is deeper than ten. A file that no chain
enters twice is never taken for a cycle. -/
theorem include_expansion_exact (view : View) (start : Start) :
    (∃ result after,
      Steps view (start.machine view) ⟨.handBack result, [], after⟩ ∧
      start.document view = (result.map fun root => ⟨root, after.files⟩, after.journal) ∧
      Machine.step view ⟨.handBack result, [], after⟩ = none ∧
      ∀ machine, Steps view (start.machine view) machine →
        Steps view machine ⟨.handBack result, [], after⟩) ∧
    (∀ path waiting loader, Steps view (start.machine view) ⟨.read path, waiting, loader⟩ →
      Machine.ReadSound view start path waiting loader) ∧
    (∀ path, (start.document view).1 = .error (.includeCycle path) →
      ∃ waiting loader, Steps view (start.machine view) ⟨.read path, waiting, loader⟩ ∧
        view.identity path ∈ (start.opened waiting).map view.identity) ∧
    (∀ path, (start.document view).1 = .error (.includeDepth path) →
      ∃ waiting loader, Steps view (start.machine view) ⟨.read path, waiting, loader⟩ ∧
        (start.opened waiting).length = includeDepth + 1) ∧
    (∀ document, (start.document view).1 = .ok document → ∀ files, Chain view start files →
      (files.map view.identity).Nodup ∧ files.length ≤ includeDepth + 1) ∧
    ∀ path, (∀ outer, Chain view start (path :: outer) →
        view.identity path ∉ outer.map view.identity) →
      (start.document view).1 ≠ .error (.includeCycle path) := by
  have hcycle (path : Path) (h : (start.document view).1 = .error (.includeCycle path)) :=
    Start.refused_document h
  refine ⟨?_, fun path waiting loader h => h.readSound, hcycle,
    fun path h => Start.refused_document h, fun document hok files h => (h.covered hok).bounds, ?_⟩
  · obtain ⟨result, after, hsteps, hdocument⟩ := start.steps_document view
    have hend : Machine.step view ⟨.handBack result, [], after⟩ = none := by
      cases result <;> rfl
    exact ⟨result, after, hsteps, hdocument, hend, fun machine h => h.of_final hsteps hend⟩
  · intro path hnever h
    obtain ⟨waiting, loader, hsteps, hopen⟩ := hcycle path h
    exact hnever _ hsteps.readSound.files hopen

end TilingConfig.Document
