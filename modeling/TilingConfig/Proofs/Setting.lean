import TilingConfig.Document.Reading
import TilingConfig.Setting

/-!
# Names of settings

Settings stand in groups, and groups stand in lists and in other groups. The names of all
settings are collected from every depth. The values of one name in a group are what every
look-up of that name depends on.
-/

namespace TilingConfig

mutual

/-- The names of the settings inside a value. -/
def Value.names : Value → List String
  | .array items => namesOfAll items
  | .group settings => namesIn settings
  | _ => []

/-- The names of the settings inside the values of a list. -/
def namesOfAll : List Value → List String
  | [] => []
  | item :: rest => item.names ++ namesOfAll rest

/-- The names of settings, and of the settings inside their values. -/
def namesIn : List (String × Value) → List String
  | [] => []
  | (name, value) :: rest => name :: (value.names ++ namesIn rest)

end

@[simp] theorem namesOfAll_nil : namesOfAll [] = [] := by rw [namesOfAll]

@[simp] theorem namesOfAll_cons (item : Value) (rest : List Value) :
    namesOfAll (item :: rest) = item.names ++ namesOfAll rest := by rw [namesOfAll]

@[simp] theorem namesIn_nil : namesIn [] = [] := by rw [namesIn]

@[simp] theorem namesIn_cons (setting : String × Value) (rest : Group) :
    namesIn (setting :: rest) = setting.1 :: (setting.2.names ++ namesIn rest) := by
  obtain ⟨name, value⟩ := setting
  rw [namesIn]

@[simp] theorem namesIn_append (xs ys : Group) : namesIn (xs ++ ys) = namesIn xs ++ namesIn ys := by
  induction xs with
  | nil => rw [namesIn_nil, List.nil_append, List.nil_append]
  | cons x rest ih => simp only [List.cons_append, namesIn_cons, ih, List.append_assoc]

/-- No include directive is left among the settings or inside them. -/
def Group.Plain (group : Group) : Prop := Document.includeName ∉ namesIn group

theorem Group.plain_nil : Group.Plain [] := by
  rw [Plain, namesIn_nil]
  exact List.not_mem_nil

theorem Group.Plain.append {g h : Group} (hg : g.Plain) (hh : h.Plain) : Group.Plain (g ++ h) := by
  rw [Plain, namesIn_append]
  exact List.not_mem_append hg hh

/-! ## The values of one name -/

namespace Group

/-- The values that are given under a name, in file order. -/
def valuesOf (g : Group) (name : String) : List Value :=
  (g.filter fun setting => setting.1 == name).map Prod.snd

theorem valuesOf_cons (setting : String × Value) (g : Group) (name : String) :
    valuesOf (setting :: g) name =
      if setting.1 = name then setting.2 :: g.valuesOf name else g.valuesOf name := by
  by_cases h : setting.1 = name <;> simp [valuesOf, h]

@[simp] theorem valuesOf_append (g h : Group) (name : String) :
    (g ++ h).valuesOf name = g.valuesOf name ++ h.valuesOf name := by
  simp [valuesOf]

/-- The last value of a name is the one that is found. -/
theorem get?_eq_getLast?_valuesOf (g : Group) (name : String) :
    g.get? name = (g.valuesOf name).getLast? := by
  rw [get?, valuesOf, List.getLast?_map, ← List.head?_filter, List.filter_reverse,
    List.head?_reverse]

/-- A name that the second of two groups gives is found there, and any other in the first. -/
theorem get?_append (g h : Group) (name : String) :
    Group.get? (g ++ h) name = (h.get? name).or (g.get? name) := by
  rw [get?_eq_getLast?_valuesOf, get?_eq_getLast?_valuesOf, get?_eq_getLast?_valuesOf,
    valuesOf_append, List.getLast?_append]

/-- The sections of a name are those of its values. -/
theorem sections_eq_flatMap_valuesOf (g : Group) (name : String) :
    g.sections name = (g.valuesOf name).flatMap Value.sections := by
  rw [sections, valuesOf, List.flatMap_map]

theorem get?_congr {g h : Group} {name : String} (hvalues : g.valuesOf name = h.valuesOf name) :
    g.get? name = h.get? name := by
  rw [get?_eq_getLast?_valuesOf, hvalues, ← get?_eq_getLast?_valuesOf]

theorem sections_congr {g h : Group} {name : String} (hvalues : g.valuesOf name = h.valuesOf name) :
    g.sections name = h.sections name := by
  rw [sections_eq_flatMap_valuesOf, hvalues, ← sections_eq_flatMap_valuesOf]

end Group

end TilingConfig
