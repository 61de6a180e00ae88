import TilingConfig.Proofs.Document.Success

/-!
# Splicing a file into a conversion

The settings of a target can be had in two ways: the conversion asks for the target, or
the text of the target stands in its place. A splice relates the two. It goes through
the binds of conversions, so that it can stand anywhere in a text.
-/

namespace TilingConfig.Document

open TilingConfig.Files

namespace Conversion

variable {α β : Type} {target : String} {inner : Conversion Group}

/-- The second conversion does in one place what `inner` does where the first asks for a target;
of a conversion that fails before, nothing is said. -/
inductive Splice (target : String) (inner : Conversion Group) :
    Conversion α → Conversion α → Prop where
  | here (next : Group → Conversion α) : Splice target inner (included target next) (inner >>= next)
  | later {other : String} {next next' : Group → Conversion α}
      (hnext : ∀ group, Splice target inner (next group) (next' group)) :
      Splice target inner (included other next) (included other next')
  | failed (line column : Nat) (fault : SyntaxFault) (conversion : Conversion α) :
      Splice target inner (failed line column fault) conversion

/-- A splice can stand in the first of two parts. -/
theorem Splice.bind {conversion conversion' : Conversion α}
    (h : Splice target inner conversion conversion') (next : α → Conversion β) :
    Splice target inner (conversion >>= next) (conversion' >>= next) := by
  induction h with
  | here rest =>
    rw [included_bind, bind_assoc]
    exact .here _
  | later _ ih => exact .later ih
  | failed line column fault conversion => exact .failed line column fault _

/-- A splice can stand in the second of two parts. -/
theorem Splice.after (conversion : Conversion α) {next next' : α → Conversion β}
    (hnext : ∀ result, Splice target inner (next result) (next' result)) :
    Splice target inner (conversion >>= next) (conversion >>= next') := by
  induction conversion with
  | done result => exact hnext result
  | failed line column fault => exact .failed line column fault _
  | included other rest ih => exact .later ih

theorem Splice.map {conversion conversion' : Conversion α}
    (h : Splice target inner conversion conversion') (f : α → β) :
    Splice target inner (f <$> conversion) (f <$> conversion') := by
  rw [map_eq_pure_bind, map_eq_pure_bind]
  exact h.bind _

theorem Splice.join_left {first first' : Conversion (List α)} (h : Splice target inner first first')
    (rest : Conversion (List α)) : Splice target inner (first.join rest) (first'.join rest) :=
  h.bind _

theorem Splice.join_right (first : Conversion (List α)) {rest rest' : Conversion (List α)}
    (h : Splice target inner rest rest') :
    Splice target inner (first.join rest) (first.join rest') :=
  .after first fun _ => h.bind _

/-- What a conversion yields with a target, it yields with the text of the target in its place,
and the files that are read are the same around it. -/
theorem Splice.yields {given : String → Group → List Path → Prop}
    {conversion conversion' : Conversion α} (h : Splice target inner conversion conversion')
    {result : α} {files : List Path} (hyields : Yields given conversion result files) :
    ∃ group before within beyond, given target group within ∧
      files = before ++ (within ++ beyond) ∧
      ∀ files', Yields given inner group files' →
        Yields given conversion' result (before ++ (files' ++ beyond)) := by
  induction h generalizing files with
  | here next =>
    obtain ⟨group, within, beyond, hgroup, hrest, rfl⟩ := yields_included_iff.1 hyields
    exact ⟨group, [], within, beyond, hgroup, rfl, fun files' hinner => hinner.bind hrest⟩
  | later _ ih =>
    obtain ⟨group, first, rest, hgroup, hrest, rfl⟩ := yields_included_iff.1 hyields
    obtain ⟨inside, before, within, beyond, hinside, rfl, hsplice⟩ := ih group hrest
    refine ⟨inside, first ++ before, within, beyond, hinside, (List.append_assoc ..).symm, ?_⟩
    intro files' hinner
    rw [List.append_assoc]
    exact .included hgroup (hsplice files' hinner)
  | failed line column fault conversion => exact absurd hyields not_yields_failed

end Conversion

variable [Parsers]

/-- Wherever a text of the file `source` can be converted in the first way, it can be in the
second, with the same result. The same files are read but for a single one: where the first way
reads `target`, the second goes on with the files that `target` includes. -/
def SameButFor (view : View) (source target : Path) {α : Type}
    (conversion conversion' : Conversion α) : Prop :=
  ∀ room loader result after,
    conversion.run source (fetchFrom (readFile view room) source) loader = (.ok result, after) →
      ∃ before within beyond after',
        (∃ group, Succeeds (readFile view room target) loader group (target :: within)) ∧
        after.files = loader.files ++ (before ++ target :: (within ++ beyond)) ∧
        conversion'.run source (fetchFrom (readFile view room) source) loader =
          (.ok result, after') ∧
        after'.files = loader.files ++ (before ++ (within ++ beyond))

/-- A text can be put in the place of the target that holds it, if it means the same there. -/
theorem Conversion.Splice.sameButFor {view : View} {source : Path} {target text : String}
    {targets : List String} {α : Type} {conversion conversion' : Conversion α}
    (h : Splice target (convert (.ofPath (resolveTarget source ⟨target⟩)) text) conversion
      conversion')
    (htext : view.read (resolveTarget source ⟨target⟩) = .ok text)
    (hasks : (convert (.ofPath (resolveTarget source ⟨target⟩)) text).Asks targets)
    (hsame : ∀ inner ∈ targets, resolveTarget (resolveTarget source ⟨target⟩) ⟨inner⟩ =
      resolveTarget source ⟨inner⟩) :
    SameButFor view source (resolveTarget source ⟨target⟩) conversion conversion' := by
  intro room loader result after hrun
  have hgrows : Grows (conversion.run source (fetchFrom (readFile view room) source)) :=
    Conversion.grows_run (grows_fetchFrom (grows_readFile view room) source) conversion
  obtain ⟨files, hafter, hsucceeds⟩ := hgrows.exists_succeeds hrun
  obtain ⟨group, before, whole, beyond, htarget, rfl, hsplice⟩ :=
    h.yields (succeeds_run_fetchFrom_iff.1 hsucceeds)
  have hread : Succeeds (readFile view room (resolveTarget source ⟨target⟩)) loader group whole :=
    succeeds_readFile_iff.2 htarget
  cases room with
  | zero => exact htarget.elim
  | succ room =>
    obtain ⟨-, text', within, htext', hwithin, rfl⟩ := reads_succ_iff.1 htarget
    obtain rfl : text = text' := Except.ok.inj (htext.symm.trans htext')
    -- In the place of its target the text is read inside one file less and with more room.
    have hinner : (convert (.ofPath (resolveTarget source ⟨target⟩)) text).Yields
        (Given view (room + 1) loader.chain source) group within := by
      refine hwithin.mono hasks fun inner hinner group files hgiven => ?_
      rw [Given, ← hsame inner hinner]
      exact hgiven.mono (Nat.le_succ room) (List.subset_cons_self _ _)
    obtain ⟨journal, hrun'⟩ := succeeds_run_fetchFrom_iff.2 (hsplice within hinner)
    exact ⟨before, within, beyond, _, ⟨group, hread⟩, by rw [hafter, List.cons_append], hrun', rfl⟩

end TilingConfig.Document
