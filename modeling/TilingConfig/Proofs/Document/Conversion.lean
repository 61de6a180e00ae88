import TilingConfig.Document.Conversion

/-!
# Laws of conversions

Conversions form a lawful monad, and lists of settings are joined in the order of the
text. A run is opened by one lemma for each outcome; later proofs go by these and by
induction on the conversion, and never unfold the reading of a tree.
-/

namespace TilingConfig.Document

open TilingConfig.Files

namespace Conversion

variable {α β γ : Type}

theorem included_bind (target : String) (rest : Group → Conversion α) (next : α → Conversion β) :
    included target rest >>= next = included target fun group => rest group >>= next := rfl

private theorem bind_done (conversion : Conversion α) : conversion >>= done = conversion := by
  induction conversion with
  | done result => rfl
  | failed line column fault => rfl
  | included target rest ih =>
    rw [included_bind]
    exact congrArg (included target) (funext ih)

private theorem bind_bind (conversion : Conversion α) (first : α → Conversion β)
    (next : β → Conversion γ) :
    conversion >>= first >>= next = conversion >>= fun result => first result >>= next := by
  induction conversion with
  | done result => rfl
  | failed line column fault => rfl
  | included target rest ih =>
    simp only [included_bind]
    exact congrArg (included target) (funext ih)

instance : LawfulMonad Conversion :=
  LawfulMonad.mk' Conversion (fun conversion => bind_done conversion) (fun _ _ => rfl)
    fun conversion first next => bind_bind conversion first next

/-- The results of two parts of a text, one after the other. -/
def join (first rest : Conversion (List α)) : Conversion (List α) := do
  let xs ← first
  let ys ← rest
  pure (xs ++ ys)

theorem join_assoc (first second third : Conversion (List α)) :
    (first.join second).join third = first.join (second.join third) := by
  simp only [join, bind_assoc, pure_bind, List.append_assoc]

@[simp] theorem nil_join (rest : Conversion (List α)) : join (pure []) rest = rest := by
  simp only [join, pure_bind, List.nil_append, bind_pure]

@[simp] theorem join_nil (first : Conversion (List α)) : first.join (pure []) = first := by
  simp only [join, pure_bind, List.append_nil, bind_pure]

variable {source : Path} {fetch : String → Reading Group}

@[simp] theorem run_done (result : α) (loader : Loader) :
    (done result).run source fetch loader = (.ok result, loader) := rfl

@[simp] theorem run_failed (line column : Nat) (fault : SyntaxFault) (loader : Loader) :
    (failed line column fault : Conversion α).run source fetch loader =
      (.error (.badSyntax source line column fault), loader) := rfl

theorem run_included_eq_ok_iff {target : String} {next : Group → Conversion α} {result : α}
    {loader after : Loader} :
    (included target next).run source fetch loader = (.ok result, after) ↔
      ∃ group mid, fetch target loader = (.ok group, mid) ∧
        (next group).run source fetch mid = (.ok result, after) := by
  rw [run]
  rcases fetch target loader with ⟨e | group, mid⟩ <;> simp [and_assoc]

theorem run_included_eq_error_iff {target : String} {next : Group → Conversion α}
    {e : ConfigError} {loader after : Loader} :
    (included target next).run source fetch loader = (.error e, after) ↔
      fetch target loader = (.error e, after) ∨
        ∃ group mid, fetch target loader = (.ok group, mid) ∧
          (next group).run source fetch mid = (.error e, after) := by
  rw [run]
  rcases fetch target loader with ⟨e' | group, mid⟩ <;> simp [and_assoc]

/-- Two parts of a conversion are carried through one after the other. -/
theorem run_bind_eq_ok_iff {conversion : Conversion α} {next : α → Conversion β} {result : β}
    {loader after : Loader} :
    (conversion >>= next).run source fetch loader = (.ok result, after) ↔
      ∃ middle mid, conversion.run source fetch loader = (.ok middle, mid) ∧
        (next middle).run source fetch mid = (.ok result, after) := by
  induction conversion generalizing loader with
  | done middle =>
    constructor
    · exact fun h => ⟨middle, loader, rfl, h⟩
    · rintro ⟨_, _, hdone, h⟩
      cases hdone
      exact h
  | failed line column fault =>
    refine iff_of_false (fun h => by cases h) ?_
    rintro ⟨_, _, h, -⟩
    cases h
  | included target rest ih =>
    simp only [included_bind, run_included_eq_ok_iff, ih]
    constructor
    · rintro ⟨group, first, hgroup, middle, mid, hmiddle, h⟩
      exact ⟨middle, mid, ⟨group, first, hgroup, hmiddle⟩, h⟩
    · rintro ⟨middle, mid, ⟨group, first, hgroup, hmiddle⟩, h⟩
      exact ⟨group, first, hgroup, middle, mid, hmiddle, h⟩

theorem run_map_eq_ok_iff {conversion : Conversion α} {f : α → β} {result : β}
    {loader after : Loader} :
    (f <$> conversion).run source fetch loader = (.ok result, after) ↔
      ∃ value, conversion.run source fetch loader = (.ok value, after) ∧ f value = result := by
  rw [map_eq_pure_bind, run_bind_eq_ok_iff]
  constructor
  · rintro ⟨value, mid, hvalue, hdone⟩
    cases hdone
    exact ⟨value, hvalue, rfl⟩
  · rintro ⟨value, hvalue, rfl⟩
    exact ⟨value, after, hvalue, rfl⟩

theorem run_join_eq_ok_iff {first rest : Conversion (List α)} {result : List α}
    {loader after : Loader} :
    (first.join rest).run source fetch loader = (.ok result, after) ↔
      ∃ xs mid ys, first.run source fetch loader = (.ok xs, mid) ∧
        rest.run source fetch mid = (.ok ys, after) ∧ xs ++ ys = result := by
  rw [join, run_bind_eq_ok_iff]
  simp only [bind_pure_comp, run_map_eq_ok_iff, exists_and_left]

end Conversion

end TilingConfig.Document
