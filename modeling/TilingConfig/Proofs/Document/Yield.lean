import TilingConfig.Proofs.Document.Conversion

/-!
# Results of conversions

What comes of a conversion depends on the settings of its targets only, and not on when
and how they are read. A conversion is described by its results, for given settings of
the targets, and by the targets that it asks for. Both follow the binds of conversions.
-/

namespace TilingConfig.Document

open TilingConfig.Files

namespace Conversion

variable {α β : Type}

/-- The conversion has the result when the targets are given so, and reads these files. -/
inductive Yields (given : String → Group → List Path → Prop) :
    Conversion α → α → List Path → Prop where
  | done (result : α) : Yields given (done result) result []
  | included {target : String} {next : Group → Conversion α} {group : Group} {result : α}
      {files rest : List Path} (hgroup : given target group files)
      (hrest : Yields given (next group) result rest) :
      Yields given (included target next) result (files ++ rest)

/-- The conversion asks for these targets in this order, unless it fails before the end. -/
inductive Asks : Conversion α → List String → Prop where
  | done (result : α) : Asks (done result) []
  | failed (line column : Nat) (fault : SyntaxFault) (targets : List String) :
      Asks (failed line column fault) targets
  | included {target : String} {next : Group → Conversion α} {targets : List String}
      (hnext : ∀ group, Asks (next group) targets) :
      Asks (included target next) (target :: targets)

/-- As long as the settings of every target satisfy `P`, every result satisfies `Q`. -/
inductive Ensures (P : Group → Prop) (Q : α → Prop) : Conversion α → Prop where
  | done {result : α} (h : Q result) : Ensures P Q (done result)
  | failed (line column : Nat) (fault : SyntaxFault) : Ensures P Q (failed line column fault)
  | included {target : String} {next : Group → Conversion α}
      (hnext : ∀ group, P group → Ensures P Q (next group)) : Ensures P Q (included target next)

variable {given given' : String → Group → List Path → Prop}

@[simp] theorem not_yields_failed {line column : Nat} {fault : SyntaxFault} {result : α}
    {files : List Path} : ¬ Yields given (.failed line column fault) result files := by
  intro h
  cases h

theorem yields_included_iff {target : String} {next : Group → Conversion α} {result : α}
    {files : List Path} :
    Yields given (.included target next) result files ↔
      ∃ group first rest, given target group first ∧ Yields given (next group) result rest ∧
        files = first ++ rest := by
  constructor
  · intro h
    cases h with
    | included hgroup hrest => exact ⟨_, _, _, hgroup, hrest, rfl⟩
  · rintro ⟨group, first, rest, hgroup, hrest, rfl⟩
    exact .included hgroup hrest

/-- Results are passed on, and files are read one part after the other. -/
theorem Yields.bind {conversion : Conversion α} {next : α → Conversion β} {middle : α}
    {result : β} {first rest : List Path} (hfirst : Yields given conversion middle first)
    (hrest : Yields given (next middle) result rest) :
    Yields given (conversion >>= next) result (first ++ rest) := by
  induction hfirst with
  | done middle => exact hrest
  | included hgroup _ ih =>
    rw [included_bind, List.append_assoc]
    exact .included hgroup (ih hrest)

/-- A result of two parts is passed on from the first to the second. -/
theorem yields_bind_iff {conversion : Conversion α} {next : α → Conversion β} {result : β}
    {files : List Path} :
    Yields given (conversion >>= next) result files ↔
      ∃ middle first rest, Yields given conversion middle first ∧
        Yields given (next middle) result rest ∧ files = first ++ rest := by
  constructor
  · intro h
    induction conversion generalizing files with
    | done middle => exact ⟨middle, [], files, .done middle, h, rfl⟩
    | failed line column fault => exact absurd h not_yields_failed
    | included target inner ih =>
      rw [included_bind, yields_included_iff] at h
      obtain ⟨group, first, rest, hgroup, hrest, rfl⟩ := h
      obtain ⟨middle, more, last, hmiddle, hlast, rfl⟩ := ih group hrest
      refine ⟨middle, first ++ more, last, .included hgroup hmiddle, hlast, ?_⟩
      rw [List.append_assoc]
  · rintro ⟨middle, first, rest, hfirst, hrest, rfl⟩
    exact hfirst.bind hrest

/-- The results of two parts are put one behind the other. -/
theorem Yields.exists_append {first rest : Conversion (List α)} {result : List α}
    {files : List Path} (h : Yields given (first.join rest) result files) :
    ∃ xs ys files₁ files₂, Yields given first xs files₁ ∧ Yields given rest ys files₂ ∧
      result = xs ++ ys := by
  obtain ⟨xs, files₁, more, hfirst, hmore, rfl⟩ := yields_bind_iff.1 h
  obtain ⟨ys, files₂, last, hrest, hlast, rfl⟩ := yields_bind_iff.1 hmore
  cases hlast
  exact ⟨xs, ys, files₁, files₂, hfirst, hrest, rfl⟩

/-- The targets of two parts are asked for one after the other. -/
theorem Asks.bind {conversion : Conversion α} {next : α → Conversion β}
    {targets rest : List String} (h : Asks conversion targets)
    (hnext : ∀ result, Asks (next result) rest) : Asks (conversion >>= next) (targets ++ rest) := by
  induction h with
  | done result => exact hnext result
  | failed line column fault targets => exact .failed line column fault _
  | included _ ih => exact .included ih

theorem Asks.map {conversion : Conversion α} {targets : List String} (h : Asks conversion targets)
    (f : α → β) : Asks (f <$> conversion) targets := by
  rw [map_eq_pure_bind, ← List.append_nil targets]
  exact h.bind fun result => .done (f result)

theorem Asks.join {first rest : Conversion (List α)} {targets more : List String}
    (hfirst : Asks first targets) (hrest : Asks rest more) :
    Asks (first.join rest) (targets ++ more) := by
  refine hfirst.bind fun xs => ?_
  rw [bind_pure_comp]
  exact hrest.map _

/-- Only the targets that are asked for need to be given. -/
theorem Yields.mono {conversion : Conversion α} {result : α} {files : List Path}
    {targets : List String} (h : Yields given conversion result files)
    (hasks : Asks conversion targets)
    (hgiven : ∀ target ∈ targets, ∀ group files, given target group files →
      given' target group files) :
    Yields given' conversion result files := by
  induction h generalizing targets with
  | done result => exact .done result
  | included hgroup _ ih =>
    obtain - | - | hnext := hasks
    obtain ⟨htarget, hrest⟩ := List.forall_mem_cons.1 hgiven
    exact .included (htarget _ _ hgroup) (ih (hnext _) hrest)

/-- The more targets are given, the more conversions have results. -/
theorem Yields.weaken {conversion : Conversion α} {result : α} {files : List Path}
    (h : Yields given conversion result files)
    (hgiven : ∀ target group files, given target group files → given' target group files) :
    Yields given' conversion result files := by
  induction h with
  | done result => exact .done result
  | included hgroup _ ih => exact .included (hgiven _ _ _ hgroup) ih

/-- A conversion that succeeds has been given every target that it asks for. -/
theorem Yields.exists_given {conversion : Conversion α} {result : α} {files : List Path}
    {targets : List String} (h : Yields given conversion result files)
    (hasks : Asks conversion targets) : ∀ target ∈ targets, ∃ group files,
      given target group files := by
  induction h generalizing targets with
  | done result =>
    cases hasks
    exact List.forall_mem_nil _
  | included hgroup _ ih =>
    obtain - | - | hnext := hasks
    exact List.forall_mem_cons.2 ⟨⟨_, _, hgroup⟩, ih (hnext _)⟩

/-- The files of a conversion are those of its targets. -/
theorem Yields.forall_files {conversion : Conversion α} {result : α} {files : List Path}
    {holds : Path → Prop} (h : Yields given conversion result files)
    (hgiven : ∀ target group files, given target group files → ∀ file ∈ files, holds file) :
    ∀ file ∈ files, holds file := by
  induction h with
  | done => exact List.forall_mem_nil _
  | included hgroup _ ih => exact List.forall_mem_append.2 ⟨hgiven _ _ _ hgroup, ih⟩

variable {P : Group → Prop} {Q : α → Prop} {R : β → Prop}

theorem Ensures.bind {conversion : Conversion α} {next : α → Conversion β}
    (h : Ensures P Q conversion) (hnext : ∀ result, Q result → Ensures P R (next result)) :
    Ensures P R (conversion >>= next) := by
  induction h with
  | done h => exact hnext _ h
  | failed line column fault => exact .failed line column fault
  | included _ ih => exact .included ih

theorem Ensures.of_yields {conversion : Conversion α} {result : α} {files : List Path}
    (h : Ensures P Q conversion) (hyields : Yields given conversion result files)
    (hgiven : ∀ target group files, given target group files → P group) : Q result := by
  induction hyields with
  | done result =>
    cases h with
    | done h => exact h
  | included hgroup _ ih =>
    cases h with
    | included hnext => exact ih (hnext _ (hgiven _ _ _ hgroup))

end Conversion

end TilingConfig.Document
