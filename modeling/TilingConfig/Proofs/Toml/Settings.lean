import TilingConfig.Proofs.Document.Splice
import TilingConfig.Proofs.Setting
import TilingConfig.Toml.Settings

/-!
# Includes in TOML trees

The same for tables as for YAML mappings: the targets at any depth, the order in which
they are asked for, and the entries of a file in the place of its include directive.
-/

namespace TilingConfig.Toml

open TilingConfig.Document TilingConfig.Files

mutual

/-- The parts of an include directive, with arrays laid flat. -/
def Item.leaves : Item → List Item
  | .array items => leavesOfAll items
  | other => [other]

/-- The parts of several directives. -/
def leavesOfAll : List Item → List Item
  | [] => []
  | item :: rest => item.leaves ++ leavesOfAll rest

end

/-- A target that stands for itself. -/
def Item.target? : Item → Option String
  | .string target => some target
  | _ => none

/-- The targets of a directive. -/
def directiveTargets (item : Item) : List String := item.leaves.filterMap Item.target?

mutual

/-- The targets of the include directives inside an item. -/
def Item.targets : Item → List String
  | .array items => targetsOfAll items
  | .table entries => targetsIn entries
  | _ => []

/-- The targets of the include directives inside the items of an array. -/
def targetsOfAll : List Item → List String
  | [] => []
  | item :: rest => item.targets ++ targetsOfAll rest

/-- The targets of the include directives among the entries of a table and inside them. -/
def targetsIn : List (String × Item) → List String
  | [] => []
  | (name, item) :: rest =>
    (if name = includeName then directiveTargets item else item.targets) ++ targetsIn rest

end

theorem includedByAll_cons (item : Item) (rest : List Item) :
    includedByAll (item :: rest) = (includedBy item).join (includedByAll rest) := by
  rw [includedByAll]
  rfl

theorem includedByAll_append (xs ys : List Item) :
    includedByAll (xs ++ ys) = (includedByAll xs).join (includedByAll ys) := by
  induction xs with
  | nil => rw [includedByAll, Conversion.nil_join, List.nil_append]
  | cons x rest ih =>
    rw [List.cons_append, includedByAll_cons, includedByAll_cons, ih, Conversion.join_assoc]

mutual

/-- A directive means what the parts of it mean in order, however its arrays are nested. -/
theorem includedBy_eq_leaves : ∀ item : Item, includedBy item = includedByAll item.leaves
  | .array items => by
    rw [includedBy, Item.leaves]
    exact includedByAll_eq_leaves items
  | .boolean _ | .integer _ | .float _ | .string _ | .datetime _ | .table _ => by
    rw [Item.leaves, includedByAll_cons, includedByAll, Conversion.join_nil]
    all_goals simp

private theorem includedByAll_eq_leaves : ∀ items : List Item,
    includedByAll items = includedByAll (leavesOfAll items)
  | [] => by rw [leavesOfAll]
  | item :: rest => by
    rw [leavesOfAll, includedByAll_append, ← includedBy_eq_leaves item,
      ← includedByAll_eq_leaves rest, includedByAll_cons]

end

mutual

/-- Nothing that is nested is left among the parts of a directive. -/
theorem Item.leaves_flat : ∀ item : Item, ∀ leaf ∈ item.leaves, leaf.leaves = [leaf]
  | .array items => by
    rw [Item.leaves]
    exact leavesOfAll_flat items
  | .boolean _ | .integer _ | .float _ | .string _ | .datetime _ | .table _ => by
    simp [Item.leaves]

private theorem leavesOfAll_flat : ∀ items : List Item,
    ∀ leaf ∈ leavesOfAll items, leaf.leaves = [leaf]
  | [] => by simp [leavesOfAll]
  | item :: rest => by
    rw [leavesOfAll]
    exact List.forall_mem_append.2 ⟨item.leaves_flat, leavesOfAll_flat rest⟩

end

theorem includedByAll_eq_foldr (items : List Item) :
    includedByAll items = (items.map includedBy).foldr Conversion.join (pure []) := by
  induction items with
  | nil => rw [includedByAll, List.map_nil, List.foldr_nil]
  | cons item rest ih => rw [includedByAll_cons, ih, List.map_cons, List.foldr_cons]

/-- The settings of one entry of a table. -/
def settingsOfEntry (name : String) (item : Item) : Conversion Group :=
  if name = includeName then includedBy item
  else do
    let value ← valueOf item
    pure [(name, value)]

/-- A table is converted entry by entry. -/
theorem settingsOf_cons (name : String) (item : Item) (rest : List (String × Item)) :
    settingsOf ((name, item) :: rest) = (settingsOfEntry name item).join (settingsOf rest) := by
  rw [settingsOf, settingsOfEntry]
  by_cases hname : name = includeName
  · rw [if_pos hname, if_pos hname]
    rfl
  · rw [if_neg hname, if_neg hname, Conversion.join, bind_assoc]
    simp only [pure_bind, List.singleton_append]

theorem settingsOf_append (xs ys : List (String × Item)) :
    settingsOf (xs ++ ys) = (settingsOf xs).join (settingsOf ys) := by
  induction xs with
  | nil => rw [settingsOf, Conversion.nil_join, List.nil_append]
  | cons entry rest ih =>
    obtain ⟨name, item⟩ := entry
    rw [List.cons_append, settingsOf_cons, settingsOf_cons, ih, Conversion.join_assoc]

theorem valuesOf_cons (item : Item) (rest : List Item) :
    valuesOf (item :: rest) = ((fun value => [value]) <$> valueOf item).join (valuesOf rest) := by
  rw [valuesOf, Conversion.join, bind_map_left]
  rfl

theorem valuesOf_append (xs ys : List Item) :
    valuesOf (xs ++ ys) = (valuesOf xs).join (valuesOf ys) := by
  induction xs with
  | nil => rw [valuesOf, Conversion.nil_join, List.nil_append]
  | cons x rest ih => rw [List.cons_append, valuesOf_cons, valuesOf_cons, ih, Conversion.join_assoc]

mutual

private theorem asks_includedBy : ∀ item : Item, (includedBy item).Asks (directiveTargets item)
  | .string target => by
    rw [includedBy]
    exact .included fun group => .done group
  | .array items => by
    rw [includedBy, directiveTargets, Item.leaves]
    exact asks_includedByAll items
  | .boolean _ | .integer _ | .float _ | .datetime _ | .table _ => by
    rw [includedBy]
    · exact .failed _ _ _ _
    all_goals simp

private theorem asks_includedByAll : ∀ items : List Item,
    (includedByAll items).Asks ((leavesOfAll items).filterMap Item.target?)
  | [] => by
    rw [includedByAll]
    exact .done []
  | item :: rest => by
    rw [includedByAll_cons, leavesOfAll, List.filterMap_append]
    exact (asks_includedBy item).join (asks_includedByAll rest)

end

mutual

private theorem asks_valueOf : ∀ item : Item, (valueOf item).Asks item.targets
  | .array items => by
    rw [valueOf, Item.targets]
    exact (asks_valuesOf items).map _
  | .table entries => by
    rw [valueOf, Item.targets]
    exact (asks_settingsOf entries).map _
  | .boolean _ | .integer _ | .float _ | .string _ | .datetime _ => by
    rw [valueOf, Item.targets]
    · exact .done _
    all_goals simp

private theorem asks_valuesOf : ∀ items : List Item, (valuesOf items).Asks (targetsOfAll items)
  | [] => by
    rw [valuesOf]
    exact .done []
  | item :: rest => by
    rw [valuesOf_cons, targetsOfAll]
    exact ((asks_valueOf item).map _).join (asks_valuesOf rest)

/-- A table asks for its targets in order. -/
theorem asks_settingsOf : ∀ entries : List (String × Item),
    (settingsOf entries).Asks (targetsIn entries)
  | [] => by
    rw [settingsOf]
    exact .done []
  | (name, item) :: rest => by
    rw [settingsOf_cons, targetsIn]
    refine .join ?_ (asks_settingsOf rest)
    rw [settingsOfEntry]
    by_cases hname : name = includeName
    · rw [if_pos hname, if_pos hname]
      exact asks_includedBy item
    · rw [if_neg hname, if_neg hname]
      exact (asks_valueOf item).map _

end

/-- A tree with a directive that includes `target`, and the tree with the entries `inner` in the
place of this directive. -/
inductive Inlines (target : String) (inner : List (String × Item)) : Item → Item → Prop where
  | directive (before after : List (String × Item)) {directive : Item}
      (h : directive.leaves = [.string target]) :
      Inlines target inner (.table (before ++ (includeName, directive) :: after))
        (.table (before ++ (inner ++ after)))
  | entry (before after : List (String × Item)) (name : String) {item item' : Item}
      (h : Inlines target inner item item') :
      Inlines target inner (.table (before ++ (name, item) :: after))
        (.table (before ++ (name, item') :: after))
  | item (before after : List Item) {item item' : Item} (h : Inlines target inner item item') :
      Inlines target inner (.array (before ++ item :: after)) (.array (before ++ item' :: after))

/-- Two trees are related by a splice as values, as directives and as whole files. -/
structure Spliced (target : String) (inner : List (String × Item)) (tree tree' : Item) : Prop where
  value : Conversion.Splice target (settingsOf inner) (valueOf tree) (valueOf tree')
  directive : Conversion.Splice target (settingsOf inner) (includedBy tree) (includedBy tree')
  document : ∀ entries entries', tree = .table entries → tree' = .table entries' →
    Conversion.Splice target (settingsOf inner) (settingsOf entries) (settingsOf entries')

variable {target : String} {inner : List (String × Item)}

private theorem Spliced.ofSettings {entries entries' : List (String × Item)}
    (h : Conversion.Splice target (settingsOf inner) (settingsOf entries) (settingsOf entries')) :
    Spliced target inner (.table entries) (.table entries') where
  value := by
    rw [valueOf, valueOf]
    exact h.bind _
  directive := by
    rw [includedBy]
    · exact .failed _ _ _ _
    all_goals simp
  document := by
    rintro _ _ ⟨⟩ ⟨⟩
    exact h

/-- An entry that includes a target asks for it and goes on with the entries after it. -/
theorem settingsOf_directive {directive : Item} (h : directive.leaves = [.string target])
    (after : List (String × Item)) :
    settingsOf ((includeName, directive) :: after) =
      (Conversion.ofTarget target).join (settingsOf after) := by
  rw [settingsOf_cons, settingsOfEntry, if_pos rfl, includedBy_eq_leaves, h, includedByAll_cons,
    includedByAll, Conversion.join_nil, includedBy]

/-- The entries of a file can stand where the file is included. -/
theorem Inlines.spliced {tree tree' : Item} (h : Inlines target inner tree tree') :
    Spliced target inner tree tree' := by
  induction h with
  | directive before after hdirective =>
    refine .ofSettings ?_
    rw [settingsOf_append, settingsOf_append, settingsOf_append, settingsOf_directive hdirective]
    exact .join_right _ (.here _)
  | entry before after name h ih =>
    refine .ofSettings ?_
    rw [settingsOf_append, settingsOf_append, settingsOf_cons, settingsOf_cons]
    refine .join_right _ (.join_left ?_ _)
    rw [settingsOfEntry, settingsOfEntry]
    by_cases hname : name = includeName
    · rw [if_pos hname, if_pos hname]
      exact ih.directive
    · rw [if_neg hname, if_neg hname]
      exact ih.value.bind _
  | item before after h ih =>
    refine ⟨?_, ?_, nofun⟩
    · rw [valueOf, valueOf, valuesOf_append, valuesOf_append, valuesOf_cons, valuesOf_cons]
      exact (Conversion.Splice.join_right _ (.join_left (ih.value.map _) _)).bind _
    · rw [includedBy, includedBy, includedByAll_append, includedByAll_append, includedByAll_cons,
        includedByAll_cons]
      exact .join_right _ (ih.directive.join_left _)

mutual

private theorem plain_includedBy : ∀ item : Item,
    (includedBy item).Ensures Group.Plain Group.Plain
  | .string target => by
    rw [includedBy]
    exact .included fun group h => .done h
  | .array items => by
    rw [includedBy]
    exact plain_includedByAll items
  | .boolean _ | .integer _ | .float _ | .datetime _ | .table _ => by
    rw [includedBy]
    · exact .failed _ _ _
    all_goals simp

private theorem plain_includedByAll : ∀ items : List Item,
    (includedByAll items).Ensures Group.Plain Group.Plain
  | [] => by
    rw [includedByAll]
    exact .done Group.plain_nil
  | item :: rest => by
    rw [includedByAll]
    exact (plain_includedBy item).bind fun first hfirst =>
      (plain_includedByAll rest).bind fun more hmore => .done (hfirst.append hmore)

end

mutual

private theorem plain_valueOf : ∀ item : Item,
    (valueOf item).Ensures Group.Plain fun value => includeName ∉ value.names
  | .array items => by
    rw [valueOf]
    refine (plain_valuesOf items).bind fun values h => .done ?_
    simpa [Value.names] using h
  | .table entries => by
    rw [valueOf]
    refine (plain_settingsOf entries).bind fun settings h => .done ?_
    simpa [Value.names, Group.Plain] using h
  | .boolean _ | .integer _ | .float _ | .string _ | .datetime _ => by
    rw [valueOf]
    refine .done ?_
    simp [Value.names]

private theorem plain_valuesOf : ∀ items : List Item,
    (valuesOf items).Ensures Group.Plain fun values => includeName ∉ namesOfAll values
  | [] => by
    rw [valuesOf]
    exact .done (by simp)
  | item :: rest => by
    rw [valuesOf]
    refine (plain_valueOf item).bind fun value h => (plain_valuesOf rest).bind fun values h' =>
      .done ?_
    rw [namesOfAll_cons]
    exact List.not_mem_append h h'

/-- The settings of a table hold no include directive, if those of its targets hold none. -/
theorem plain_settingsOf : ∀ entries : List (String × Item),
    (settingsOf entries).Ensures Group.Plain Group.Plain
  | [] => by
    rw [settingsOf]
    exact .done Group.plain_nil
  | (name, item) :: rest => by
    rw [settingsOf_cons, settingsOfEntry]
    refine .bind ?_ fun first hfirst => (plain_settingsOf rest).bind fun more hmore =>
      .done (Group.Plain.append hfirst hmore)
    by_cases hname : name = includeName
    · rw [if_pos hname]
      exact plain_includedBy item
    · rw [if_neg hname]
      refine (plain_valueOf item).bind fun value h => .done ?_
      simpa [Group.Plain, eq_comm, hname] using h

end

end TilingConfig.Toml
