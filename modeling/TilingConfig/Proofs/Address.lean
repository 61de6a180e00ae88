import TilingConfig.Proofs.Setting

/-!
# Settings at an address

A setting stands in a group that is reached by names, from group to group. Of each name the
last value counts, as in every look-up. A setting that is added at an address goes to the end
of the group there, and a group that is absent on the way is made. The setting is found at
its address then, and what is found at any other address is what was found there before.
-/

namespace TilingConfig.Group

variable {g : Group} {name other : String} {edit : Group → Group}

/-- The settings of the last group of a name; there are none if it is absent. -/
def inner (g : Group) (name : String) : Group := ((g.get? name).bind Value.group?).getD []

/-- The group at the end of a path. -/
def innerAt : List String → Group → Group
  | [], g => g
  | name :: rest, g => (g.inner name).innerAt rest

/-- The last value of a name is a group, unless there is none. -/
def GroupOrAbsent (g : Group) (name : String) : Prop :=
  ∀ value, g.get? name = some value → ∃ group, value = .group group

/-- Groups stand all along a path, as far as there is anything. -/
def Opens : List String → Group → Prop
  | [], _ => True
  | name :: rest, g => g.GroupOrAbsent name ∧ (g.inner name).Opens rest

/-- Edit the last group of a name in its place, or make one at the end. -/
def editLast (name : String) (edit : Group → Group) : Group → Group
  | [] => [(name, .group (edit []))]
  | setting :: rest =>
    if setting.1 = name ∧ name ∉ rest.map Prod.fst then
      (name, .group (edit (setting.2.group?.getD []))) :: rest
    else setting :: editLast name edit rest

/-- Add a setting at the end of the group at a path. -/
def addAt : List String → String × Value → Group → Group
  | [], setting, g => g ++ [setting]
  | name :: rest, setting, g => g.editLast name (addAt rest setting)

/-! ## Look-ups -/

theorem get?_cons (setting : String × Value) (g : Group) (name : String) :
    get? (setting :: g) name =
      (g.get? name).or (if setting.1 = name then some setting.2 else none) := by
  rw [← List.singleton_append, get?_append]
  by_cases h : setting.1 = name <;> simp [get?, h]

theorem get?_eq_none_iff : g.get? name = none ↔ name ∉ g.map Prod.fst := by
  induction g with
  | nil => simp [get?]
  | cons setting rest ih =>
    rw [get?_cons, Option.or_eq_none_iff, ih, List.map_cons, List.mem_cons, not_or, and_comm]
    simp [eq_comm]

theorem inner_eq_of_get?_eq {g h : Group} (heq : g.get? name = h.get? name) :
    g.inner name = h.inner name := by
  rw [inner, inner, heq]

theorem GroupOrAbsent.congr {g h : Group} (hopen : g.GroupOrAbsent name)
    (heq : h.get? name = g.get? name) : h.GroupOrAbsent name := by
  rwa [GroupOrAbsent, heq]

/-! ## Edits of one group -/

/-- The last group of the name is the one that is edited. -/
theorem get?_editLast_self :
    (g.editLast name edit).get? name = some (.group (edit (g.inner name))) := by
  induction g with
  | nil => simp [editLast, inner, get?]
  | cons setting rest ih =>
    rw [editLast]
    split
    · next hlast =>
      have hrest := get?_eq_none_iff.2 hlast.2
      simp [get?_cons, inner, hrest, hlast.1]
    · next hearlier =>
      rw [get?_cons, ih, Option.some_or, inner, inner, get?_cons]
      cases hrest : get? rest name with
      | some value => rw [Option.some_or]
      | none =>
        have hne : setting.1 ≠ name := fun h => hearlier ⟨h, get?_eq_none_iff.1 hrest⟩
        rw [if_neg hne, Option.none_or]

theorem inner_editLast_self : (g.editLast name edit).inner name = edit (g.inner name) := by
  rw [inner, get?_editLast_self]
  rfl

/-- The values of other names are left alone. -/
theorem valuesOf_editLast_of_ne (hne : other ≠ name) :
    (g.editLast name edit).valuesOf other = g.valuesOf other := by
  induction g with
  | nil => simp [editLast, valuesOf, hne.symm]
  | cons setting rest ih =>
    rw [editLast]
    split
    · next hlast => simp [valuesOf_cons, hlast.1, hne.symm]
    · simp [valuesOf_cons, ih]

theorem get?_editLast_of_ne (hne : other ≠ name) :
    (g.editLast name edit).get? other = g.get? other := get?_congr (valuesOf_editLast_of_ne hne)

theorem get?_append_of_ne {value : Value} (hne : other ≠ name) :
    get? (g ++ [(name, value)]) other = g.get? other := by
  simp [get?_append, get?_cons, hne.symm, get?_eq_none_iff.2]

/-! ## Settings that are added -/

variable {value : Value} {path away : List String}

/-- A setting that is added is found. -/
theorem get?_innerAt_addAt_self :
    ((g.addAt path (name, value)).innerAt path).get? name = some value := by
  induction path generalizing g with
  | nil => exact get?_append_single g name value
  | cons first rest ih =>
    rw [addAt, innerAt, inner_editLast_self]
    exact ih

/-- What is found at an address that neither leads on from that of the added setting nor to it is
what was found there before. -/
theorem get?_innerAt_addAt_of_apart (hon : ¬ path ++ [name] <+: away ++ [other])
    (hto : ¬ away ++ [other] <+: path ++ [name]) :
    ((g.addAt path (name, value)).innerAt away).get? other = (g.innerAt away).get? other := by
  induction path generalizing g away with
  | nil =>
    rw [addAt]
    cases away with
    | nil => exact get?_append_of_ne fun h => hon (by simp [h])
    | cons first more =>
      have hne : first ≠ name := fun h => hon (by simp [h])
      rw [innerAt, innerAt, inner_eq_of_get?_eq (get?_append_of_ne hne)]
  | cons first rest ih =>
    rw [addAt]
    cases away with
    | nil => exact get?_editLast_of_ne fun h => hto (by simp [h])
    | cons first' more =>
      rw [innerAt, innerAt]
      by_cases hfirst : first' = first
      · subst hfirst
        rw [inner_editLast_self]
        refine ih (fun h => hon ?_) fun h => hto ?_
        · exact List.cons_prefix_cons.2 ⟨rfl, h⟩
        · exact List.cons_prefix_cons.2 ⟨rfl, h⟩
      · rw [inner_eq_of_get?_eq (get?_editLast_of_ne hfirst)]

/-- A path on which groups stand stays one, unless the added setting is on it. -/
theorem Opens.addAt (hopen : g.Opens away) (hon : ¬ path ++ [name] <+: away) :
    (g.addAt path (name, value)).Opens away := by
  induction away generalizing g path with
  | nil => trivial
  | cons first more ih =>
    obtain ⟨hfirst, hmore⟩ := hopen
    cases path with
    | nil =>
      have hget : Group.get? (g ++ [(name, value)]) first = g.get? first :=
        get?_append_of_ne fun h => hon (by simp [h])
      refine ⟨hfirst.congr hget, ?_⟩
      rw [Group.addAt, inner_eq_of_get?_eq hget]
      exact hmore
    | cons first' rest =>
      rw [Group.addAt]
      by_cases heq : first = first'
      · subst heq
        refine ⟨fun found hfound => ?_, ?_⟩
        · rw [get?_editLast_self] at hfound
          exact ⟨_, (Option.some.inj hfound).symm⟩
        · rw [inner_editLast_self]
          exact ih hmore fun h => hon (List.cons_prefix_cons.2 ⟨rfl, h⟩)
      · have hget : (g.editLast first' (Group.addAt rest (name, value))).get? first =
            g.get? first := get?_editLast_of_ne heq
        refine ⟨hfirst.congr hget, ?_⟩
        rw [inner_eq_of_get?_eq hget]
        exact hmore

end TilingConfig.Group
