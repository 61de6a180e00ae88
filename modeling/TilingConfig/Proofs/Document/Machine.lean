import Mathlib.Logic.Relation
import TilingConfig.Proofs.Document.Growth

/-!
# The reading of includes step by step

The reading of a file with its includes is told as the steps of a machine. The machine
has no bound on its steps: it refuses a file by the length of the chain alone, and what
waits for an include is kept on a stack. It comes to an end from every state in which the
chain is short enough, and with what the reading by recursion gives.
-/

namespace TilingConfig.Document

open TilingConfig.Files Relation

/-- What is to be done next. -/
inductive Task where
  /-- Read a file. -/
  | read (path : Path)
  /-- Convert a text of the file `source`. -/
  | convert (source : Path) (conversion : Conversion Group)
  /-- Hand back what has been read. -/
  | handBack (result : Except ConfigError Group)

/-- What waits for something to be handed back. -/
inductive Frame where
  /-- A conversion of the file `source` goes on with the settings of a target. -/
  | resume (source : Path) (next : Group → Conversion Group)
  /-- A file has to be left. -/
  | leave (path : Path)

/-- A state of the reading. -/
structure Machine where
  /-- What is to be done next. -/
  task : Task
  /-- What waits for it, the innermost first. -/
  waiting : List Frame
  /-- What is known by now. -/
  loader : Loader

namespace Machine

/-- Hand back an outcome. -/
def ofOutcome (waiting : List Frame) (outcome : Except ConfigError Group × Loader) : Machine :=
  ⟨.handBack outcome.1, waiting, outcome.2⟩

variable [Parsers]

/-- One step; none is left when the outermost result has been handed back. -/
def step (view : View) : Machine → Option Machine
  | ⟨.read path, waiting, loader⟩ =>
    let file := view.identity path
    if includeDepth < loader.chain.length then
      some (ofOutcome waiting (.error (.includeDepth path), loader))
    else if file ∈ loader.chain then
      some (ofOutcome waiting (.error (.includeCycle path), loader))
    else match view.read path with
      | .error cause => some (ofOutcome waiting (.error (.unreadable path cause), loader))
      | .ok text =>
        some ⟨.convert path (convert (.ofPath path) text), .leave path :: waiting,
          loader.enter path file⟩
  | ⟨.convert _ (.done group), waiting, loader⟩ => some (ofOutcome waiting (.ok group, loader))
  | ⟨.convert source (.failed line column fault), waiting, loader⟩ =>
    some (ofOutcome waiting (.error (.badSyntax source line column fault), loader))
  | ⟨.convert source (.included target next), waiting, loader⟩ =>
    let resolved := resolveTarget source ⟨target⟩
    some ⟨.read resolved, .resume source next :: waiting,
      loader.report (source.text ++ " includes " ++ resolved.text)⟩
  | ⟨.handBack result, .leave _ :: waiting, loader⟩ =>
    some (ofOutcome waiting (result, loader.leave))
  | ⟨.handBack (.ok group), .resume source next :: waiting, loader⟩ =>
    some ⟨.convert source (next group), waiting, loader⟩
  | ⟨.handBack (.error e), .resume _ _ :: waiting, loader⟩ =>
    some (ofOutcome waiting (.error e, loader))
  | ⟨.handBack _, [], _⟩ => none

/-- The second state comes after the first, by any number of steps. -/
def Steps (view : View) : Machine → Machine → Prop :=
  ReflTransGen fun first second => first.step view = some second

variable {view : View}

theorem Steps.trans {first second third : Machine} (h : Steps view first second)
    (h' : Steps view second third) : Steps view first third := ReflTransGen.trans h h'

theorem Steps.head {first second third : Machine} (h : first.step view = some second)
    (h' : Steps view second third) : Steps view first third := ReflTransGen.head h h'

theorem Steps.single {first second : Machine} (h : first.step view = some second) :
    Steps view first second := ReflTransGen.single h

/-- All that can become of a file that is to be read: it is refused for its depth or for a cycle,
it has no text, or it is entered and its text is converted. -/
theorem step_read_cases (view : View) (path : Path) (waiting : List Frame) (loader : Loader) :
    (includeDepth < loader.chain.length ∧ step view ⟨.read path, waiting, loader⟩ =
      some (ofOutcome waiting (.error (.includeDepth path), loader))) ∨
    (loader.chain.length ≤ includeDepth ∧ view.identity path ∈ loader.chain ∧
      step view ⟨.read path, waiting, loader⟩ =
        some (ofOutcome waiting (.error (.includeCycle path), loader))) ∨
    (∃ cause, loader.chain.length ≤ includeDepth ∧ view.identity path ∉ loader.chain ∧
      view.read path = .error cause ∧ step view ⟨.read path, waiting, loader⟩ =
        some (ofOutcome waiting (.error (.unreadable path cause), loader))) ∨
    (∃ text, loader.chain.length ≤ includeDepth ∧ view.identity path ∉ loader.chain ∧
      view.read path = .ok text ∧ step view ⟨.read path, waiting, loader⟩ =
        some ⟨.convert path (convert (.ofPath path) text), .leave path :: waiting,
          loader.enter path (view.identity path)⟩) := by
  by_cases hdeep : includeDepth < loader.chain.length
  · exact Or.inl ⟨hdeep, by simp only [step, if_pos hdeep]⟩
  have hroomy : loader.chain.length ≤ includeDepth := Nat.not_lt.1 hdeep
  by_cases hfile : view.identity path ∈ loader.chain
  · exact Or.inr (Or.inl ⟨hroomy, hfile, by simp only [step, if_neg hdeep, if_pos hfile]⟩)
  cases htext : view.read path with
  | error cause =>
    refine Or.inr (Or.inr (Or.inl ⟨cause, hroomy, hfile, rfl, ?_⟩))
    simp only [step, if_neg hdeep, if_neg hfile, htext]
  | ok text =>
    refine Or.inr (Or.inr (Or.inr ⟨text, hroomy, hfile, rfl, ?_⟩))
    simp only [step, if_neg hdeep, if_neg hfile, htext]

/-- There is one way only: a state that is passed leads to the end, too. -/
theorem Steps.of_final {start middle final : Machine} (hmiddle : Steps view start middle)
    (hfinal : Steps view start final) (hend : final.step view = none) :
    Steps view middle final := by
  have hunique : Relator.RightUnique fun first second : Machine =>
      first.step view = some second :=
    fun first second third h h' => Option.some.inj (h.symm.trans h')
  rcases ReflTransGen.total_of_right_unique hunique hmiddle hfinal with h | h
  · exact h
  · rcases ReflTransGen.cases_head h with heq | ⟨next, hnext, -⟩
    · exact heq ▸ .refl
    · simp [hend] at hnext

/-- A conversion is carried through, if every file is read when the chain is as long as here. -/
private theorem steps_run {room : Nat} {loader : Loader}
    (hread : ∀ path waiting loader', loader'.chain = loader.chain →
      Steps view ⟨.read path, waiting, loader'⟩
        (ofOutcome waiting (readFile view room path loader')))
    (source : Path) (conversion : Conversion Group) (waiting : List Frame) :
    Steps view ⟨.convert source conversion, waiting, loader⟩
      (ofOutcome waiting
        (conversion.run source (fetchFrom (readFile view room) source) loader)) := by
  induction conversion generalizing loader with
  | done group => exact .single rfl
  | failed line column fault => exact .single rfl
  | included target next ih =>
    have hfetch : Steps view ⟨.convert source (.included target next), waiting, loader⟩
        (ofOutcome (.resume source next :: waiting)
          (fetchFrom (readFile view room) source target loader)) :=
      .head rfl (hread _ _ _ rfl)
    have hgrows := grows_fetchFrom (grows_readFile view room) source target loader
    rw [Conversion.run]
    rcases hmid : fetchFrom (readFile view room) source target loader with ⟨e | group, mid⟩
    · rw [hmid] at hfetch
      exact hfetch.trans (.single rfl)
    · rw [hmid] at hfetch hgrows
      refine hfetch.trans (.head rfl (ih group fun path waiting' loader' hchain => ?_))
      exact hread path waiting' loader' (hchain.trans hgrows.1)

/-- The machine reads a file to the end, and with what the reading by recursion gives. -/
theorem steps_readFile {room : Nat} (path : Path) (waiting : List Frame) {loader : Loader}
    (hroom : room + loader.chain.length = includeDepth + 1) :
    Steps view ⟨.read path, waiting, loader⟩
      (ofOutcome waiting (readFile view room path loader)) := by
  induction room generalizing path waiting loader with
  | zero =>
    rcases step_read_cases view path waiting loader with
      ⟨-, hstep⟩ | ⟨hroomy, -⟩ | ⟨cause, hroomy, -⟩ | ⟨text, hroomy, -⟩
    · exact .single hstep
    all_goals omega
  | succ room ih =>
    rw [readFile]
    rcases step_read_cases view path waiting loader with
      ⟨hdeep, -⟩ | ⟨-, hfile, hstep⟩ | ⟨cause, -, hfile, htext, hstep⟩ |
      ⟨text, -, hfile, htext, hstep⟩
    · omega
    · rw [if_pos hfile]
      exact .single hstep
    · rw [if_neg hfile, htext]
      exact .single hstep
    · rw [if_neg hfile, htext]
      have hinside (path' : Path) (waiting' : List Frame) (loader' : Loader)
          (hchain : loader'.chain = (loader.enter path (view.identity path)).chain) :
          Steps view ⟨.read path', waiting', loader'⟩
            (ofOutcome waiting' (readFile view room path' loader')) := by
        refine ih path' waiting' ?_
        rw [hchain, Loader.enter, List.length_cons]
        omega
      have hrun := steps_run hinside path (convert (.ofPath path) text) (.leave path :: waiting)
      exact .head hstep (hrun.trans (.single rfl))

/-- So it converts a text. -/
theorem steps_convert {room : Nat} (source : Path) (conversion : Conversion Group)
    (waiting : List Frame) {loader : Loader}
    (hroom : room + loader.chain.length = includeDepth + 1) :
    Steps view ⟨.convert source conversion, waiting, loader⟩
      (ofOutcome waiting
        (conversion.run source (fetchFrom (readFile view room) source) loader)) :=
  steps_run (fun path waiting' _ hchain => steps_readFile path waiting' (hchain ▸ hroom))
    source conversion waiting

end Machine

end TilingConfig.Document
