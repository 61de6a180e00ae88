import TilingConfig.Proofs.Document.Splice
import TilingConfig.Proofs.Setting
import TilingConfig.Yaml.Settings

/-!
# Includes in YAML trees

The targets of a tree are those of its include directives, at any depth; a conversion of
the tree asks for them in order. A mapping is converted entry by entry, so that the
entries of a file can stand where the file is included.
-/

namespace TilingConfig.Yaml

open TilingConfig.Document TilingConfig.Files TilingConfig.Number

mutual

/-- The parts of an include directive, with lists laid flat and tags taken off. -/
def Node.leaves : Node → List Node
  | .sequence items => leavesOfAll items
  | .tagged _ node => node.leaves
  | other => [other]

/-- The parts of several directives. -/
def leavesOfAll : List Node → List Node
  | [] => []
  | item :: rest => item.leaves ++ leavesOfAll rest

end

/-- A target that stands for itself. -/
def Node.target? : Node → Option String
  | .string target => some target
  | _ => none

/-- The targets of a directive. -/
def directiveTargets (node : Node) : List String := node.leaves.filterMap Node.target?

mutual

/-- The targets of the include directives inside a node. -/
def Node.targets : Node → List String
  | .sequence items => targetsOfAll items
  | .mapping entries => targetsIn entries
  | .tagged _ node => node.targets
  | _ => []

/-- The targets of the include directives inside the nodes of a list. -/
def targetsOfAll : List Node → List String
  | [] => []
  | item :: rest => item.targets ++ targetsOfAll rest

/-- The targets of the include directives among the entries of a mapping and inside them. -/
def targetsIn : List (Node × Node) → List String
  | [] => []
  | (.string name, value) :: rest =>
    (if name = includeName then directiveTargets value else value.targets) ++ targetsIn rest
  | (_, value) :: rest => value.targets ++ targetsIn rest

end

theorem includedByAll_cons (node : Node) (rest : List Node) :
    includedByAll (node :: rest) = (includedBy node).join (includedByAll rest) := by
  rw [includedByAll]
  rfl

theorem includedByAll_append (xs ys : List Node) :
    includedByAll (xs ++ ys) = (includedByAll xs).join (includedByAll ys) := by
  induction xs with
  | nil => rw [includedByAll, Conversion.nil_join, List.nil_append]
  | cons x rest ih =>
    rw [List.cons_append, includedByAll_cons, includedByAll_cons, ih, Conversion.join_assoc]

mutual

/-- A directive means what the parts of it mean in order, however its lists are nested. -/
theorem includedBy_eq_leaves : ∀ node : Node, includedBy node = includedByAll node.leaves
  | .sequence items => by
    rw [includedBy, Node.leaves]
    exact includedByAll_eq_leaves items
  | .tagged _ node => by
    rw [includedBy, Node.leaves]
    exact includedBy_eq_leaves node
  | .null | .bool _ | .integer _ | .float _ | .string _ | .mapping _ => by
    rw [Node.leaves, includedByAll_cons, includedByAll, Conversion.join_nil]
    all_goals simp

private theorem includedByAll_eq_leaves : ∀ nodes : List Node,
    includedByAll nodes = includedByAll (leavesOfAll nodes)
  | [] => by rw [leavesOfAll]
  | node :: rest => by
    rw [leavesOfAll, includedByAll_append, ← includedBy_eq_leaves node,
      ← includedByAll_eq_leaves rest, includedByAll_cons]

end

mutual

/-- Nothing that is nested is left among the parts of a directive. -/
theorem Node.leaves_flat : ∀ node : Node, ∀ leaf ∈ node.leaves, leaf.leaves = [leaf]
  | .sequence items => by
    rw [Node.leaves]
    exact leavesOfAll_flat items
  | .tagged _ node => by
    rw [Node.leaves]
    exact node.leaves_flat
  | .null | .bool _ | .integer _ | .float _ | .string _ | .mapping _ => by simp [Node.leaves]

private theorem leavesOfAll_flat : ∀ nodes : List Node,
    ∀ leaf ∈ leavesOfAll nodes, leaf.leaves = [leaf]
  | [] => by simp [leavesOfAll]
  | node :: rest => by
    rw [leavesOfAll]
    exact List.forall_mem_append.2 ⟨node.leaves_flat, leavesOfAll_flat rest⟩

end

theorem includedByAll_eq_foldr (nodes : List Node) :
    includedByAll nodes = (nodes.map includedBy).foldr Conversion.join (pure []) := by
  induction nodes with
  | nil => rw [includedByAll, List.map_nil, List.foldr_nil]
  | cons node rest ih => rw [includedByAll_cons, ih, List.map_cons, List.foldr_cons]

/-- The settings of one entry of a mapping. -/
def settingsOfEntry (key value : Node) : Conversion Group :=
  match key with
  | .string name =>
    if name = includeName then includedBy value
    else do
      let value ← valueOf value
      pure (value.toList.map fun value => (name, value))
  | other => .fault (.settingName other.kindName)

/-- A mapping is converted entry by entry. -/
theorem settingsOf_cons (key value : Node) (rest : List (Node × Node)) :
    settingsOf ((key, value) :: rest) = (settingsOfEntry key value).join (settingsOf rest) := by
  cases key with
  | string name =>
    rw [settingsOf, settingsOfEntry]
    by_cases hname : name = includeName
    · rw [if_pos hname, if_pos hname]
      rfl
    · rw [if_neg hname, if_neg hname, Conversion.join, bind_assoc]
      simp only [pure_bind]
  | _ => rfl

theorem settingsOf_append (xs ys : List (Node × Node)) :
    settingsOf (xs ++ ys) = (settingsOf xs).join (settingsOf ys) := by
  induction xs with
  | nil => rw [settingsOf, Conversion.nil_join, List.nil_append]
  | cons entry rest ih =>
    obtain ⟨key, value⟩ := entry
    rw [List.cons_append, settingsOf_cons, settingsOf_cons, ih, Conversion.join_assoc]

theorem valuesOf_cons (node : Node) (rest : List Node) :
    valuesOf (node :: rest) = (Option.toList <$> valueOf node).join (valuesOf rest) := by
  rw [valuesOf, Conversion.join, bind_map_left]

theorem valuesOf_append (xs ys : List Node) :
    valuesOf (xs ++ ys) = (valuesOf xs).join (valuesOf ys) := by
  induction xs with
  | nil => rw [valuesOf, Conversion.nil_join, List.nil_append]
  | cons x rest ih => rw [List.cons_append, valuesOf_cons, valuesOf_cons, ih, Conversion.join_assoc]

mutual

private theorem asks_includedBy : ∀ node : Node, (includedBy node).Asks (directiveTargets node)
  | .string target => by
    rw [includedBy]
    exact .included fun group => .done group
  | .sequence items => by
    rw [includedBy, directiveTargets, Node.leaves]
    exact asks_includedByAll items
  | .tagged _ node => by
    rw [includedBy, directiveTargets, Node.leaves]
    exact asks_includedBy node
  | .null | .bool _ | .integer _ | .float _ | .mapping _ => by
    rw [includedBy]
    · exact .failed _ _ _ _
    all_goals simp

private theorem asks_includedByAll : ∀ nodes : List Node,
    (includedByAll nodes).Asks ((leavesOfAll nodes).filterMap Node.target?)
  | [] => by
    rw [includedByAll]
    exact .done []
  | node :: rest => by
    rw [includedByAll_cons, leavesOfAll, List.filterMap_append]
    exact (asks_includedBy node).join (asks_includedByAll rest)

end

mutual

private theorem asks_valueOf : ∀ node : Node, (valueOf node).Asks node.targets
  | .sequence items => by
    rw [valueOf, Node.targets]
    exact (asks_valuesOf items).map _
  | .mapping entries => by
    rw [valueOf, Node.targets]
    exact (asks_settingsOf entries).map _
  | .tagged _ node => by
    rw [valueOf, Node.targets]
    exact asks_valueOf node
  | .null | .bool _ | .integer _ | .float _ | .string _ => by
    rw [valueOf, Node.targets]
    · exact .done _
    all_goals simp

private theorem asks_valuesOf : ∀ nodes : List Node, (valuesOf nodes).Asks (targetsOfAll nodes)
  | [] => by
    rw [valuesOf]
    exact .done []
  | node :: rest => by
    rw [valuesOf_cons, targetsOfAll]
    exact ((asks_valueOf node).map _).join (asks_valuesOf rest)

/-- A mapping asks for its targets in order. -/
theorem asks_settingsOf : ∀ entries : List (Node × Node),
    (settingsOf entries).Asks (targetsIn entries)
  | [] => by
    rw [settingsOf]
    exact .done []
  | (.string name, value) :: rest => by
    rw [settingsOf_cons, targetsIn]
    refine .join ?_ (asks_settingsOf rest)
    rw [settingsOfEntry]
    by_cases hname : name = includeName
    · rw [if_pos hname, if_pos hname]
      exact asks_includedBy value
    · rw [if_neg hname, if_neg hname]
      exact (asks_valueOf value).map _
  | (.null, _) :: _ | (.bool _, _) :: _ | (.integer _, _) :: _ | (.float _, _) :: _
  | (.sequence _, _) :: _ | (.mapping _, _) :: _ | (.tagged _ _, _) :: _ => by
    rw [settingsOf]
    · exact .failed _ _ _ _
    all_goals simp

end

/-- A tree with a directive that includes `target`, and the tree with the entries `inner` in the
place of this directive. -/
inductive Inlines (target : String) (inner : List (Node × Node)) : Node → Node → Prop where
  | directive (before after : List (Node × Node)) {directive : Node}
      (h : directive.leaves = [.string target]) :
      Inlines target inner (.mapping (before ++ (.string includeName, directive) :: after))
        (.mapping (before ++ (inner ++ after)))
  | entry (before after : List (Node × Node)) (key : Node) {value value' : Node}
      (h : Inlines target inner value value') :
      Inlines target inner (.mapping (before ++ (key, value) :: after))
        (.mapping (before ++ (key, value') :: after))
  | item (before after : List Node) {node node' : Node} (h : Inlines target inner node node') :
      Inlines target inner (.sequence (before ++ node :: after))
        (.sequence (before ++ node' :: after))
  | tagged (tag : String) {node node' : Node} (h : Inlines target inner node node') :
      Inlines target inner (.tagged tag node) (.tagged tag node')

/-- Two trees are related by a splice as values, as directives and as whole files. -/
structure Spliced (target : String) (inner : List (Node × Node)) (tree tree' : Node) : Prop where
  value : Conversion.Splice target (settingsOf inner) (valueOf tree) (valueOf tree')
  directive : Conversion.Splice target (settingsOf inner) (includedBy tree) (includedBy tree')
  document :
    Conversion.Splice target (settingsOf inner) (documentSettings tree) (documentSettings tree')

variable {target : String} {inner : List (Node × Node)}

private theorem Spliced.ofSettings {entries entries' : List (Node × Node)}
    (h : Conversion.Splice target (settingsOf inner) (settingsOf entries) (settingsOf entries')) :
    Spliced target inner (.mapping entries) (.mapping entries') where
  value := by
    rw [valueOf, valueOf]
    exact h.bind _
  directive := by
    rw [includedBy]
    · exact .failed _ _ _ _
    all_goals simp
  document := h

/-- An entry that includes a target asks for it and goes on with the entries after it. -/
theorem settingsOf_directive {directive : Node} (h : directive.leaves = [.string target])
    (after : List (Node × Node)) :
    settingsOf ((.string includeName, directive) :: after) =
      (Conversion.ofTarget target).join (settingsOf after) := by
  rw [settingsOf_cons, settingsOfEntry, if_pos rfl, includedBy_eq_leaves, h, includedByAll_cons,
    includedByAll, Conversion.join_nil, includedBy]

/-- The entries of a file can stand where the file is included. -/
theorem Inlines.spliced {tree tree' : Node} (h : Inlines target inner tree tree') :
    Spliced target inner tree tree' := by
  induction h with
  | directive before after hdirective =>
    refine .ofSettings ?_
    rw [settingsOf_append, settingsOf_append, settingsOf_append, settingsOf_directive hdirective]
    exact .join_right _ (.here _)
  | entry before after key h ih =>
    refine .ofSettings ?_
    rw [settingsOf_append, settingsOf_append, settingsOf_cons, settingsOf_cons]
    refine .join_right _ (.join_left ?_ _)
    cases key with
    | string name =>
      rw [settingsOfEntry, settingsOfEntry]
      by_cases hname : name = includeName
      · rw [if_pos hname, if_pos hname]
        exact ih.directive
      · rw [if_neg hname, if_neg hname]
        exact ih.value.bind _
    | _ => exact .failed _ _ _ _
  | @item before after node node' h ih =>
    refine ⟨?_, ?_, .failed _ _ _ _⟩
    · rw [valueOf, valueOf, valuesOf_append, valuesOf_append, valuesOf_cons, valuesOf_cons]
      exact (Conversion.Splice.join_right _ (.join_left (ih.value.map _) _)).bind _
    · rw [includedBy, includedBy, includedByAll_append, includedByAll_append, includedByAll_cons,
        includedByAll_cons]
      exact .join_right _ (ih.directive.join_left _)
  | tagged tag h ih =>
    refine ⟨?_, ?_, .failed _ _ _ _⟩
    · rw [valueOf, valueOf]
      exact ih.value
    · rw [includedBy, includedBy]
      exact ih.directive

mutual

private theorem plain_includedBy : ∀ node : Node,
    (includedBy node).Ensures Group.Plain Group.Plain
  | .string target => by
    rw [includedBy]
    exact .included fun group h => .done h
  | .sequence items => by
    rw [includedBy]
    exact plain_includedByAll items
  | .tagged _ node => by
    rw [includedBy]
    exact plain_includedBy node
  | .null | .bool _ | .integer _ | .float _ | .mapping _ => by
    rw [includedBy]
    · exact .failed _ _ _
    all_goals simp

private theorem plain_includedByAll : ∀ nodes : List Node,
    (includedByAll nodes).Ensures Group.Plain Group.Plain
  | [] => by
    rw [includedByAll]
    exact .done Group.plain_nil
  | node :: rest => by
    rw [includedByAll]
    exact (plain_includedBy node).bind fun first hfirst =>
      (plain_includedByAll rest).bind fun more hmore => .done (hfirst.append hmore)

end

mutual

private theorem plain_valueOf : ∀ node : Node,
    (valueOf node).Ensures Group.Plain fun value => ∀ v ∈ value, includeName ∉ v.names
  | .sequence items => by
    rw [valueOf]
    refine (plain_valuesOf items).bind fun values h => .done ?_
    simpa [Value.names] using h
  | .mapping entries => by
    rw [valueOf]
    refine (plain_settingsOf entries).bind fun settings h => .done ?_
    simpa [Value.names, Group.Plain] using h
  | .tagged _ node => by
    rw [valueOf]
    exact plain_valueOf node
  | .integer n => by
    rw [valueOf, wholeValue]
    refine .done ?_
    split <;> simp [Value.names]
  | .null | .bool _ | .float _ | .string _ => by
    rw [valueOf]
    refine .done ?_
    simp [Value.names]

private theorem plain_valuesOf : ∀ nodes : List Node,
    (valuesOf nodes).Ensures Group.Plain fun values => includeName ∉ namesOfAll values
  | [] => by
    rw [valuesOf]
    exact .done (by simp)
  | node :: rest => by
    rw [valuesOf]
    refine (plain_valueOf node).bind fun value h => (plain_valuesOf rest).bind fun values h' =>
      .done ?_
    cases value <;> simp_all

/-- The settings of a mapping hold no include directive, if those of its targets hold none. -/
theorem plain_settingsOf : ∀ entries : List (Node × Node),
    (settingsOf entries).Ensures Group.Plain Group.Plain
  | [] => by
    rw [settingsOf]
    exact .done Group.plain_nil
  | (.string name, value) :: rest => by
    rw [settingsOf_cons, settingsOfEntry]
    refine .bind ?_ fun first hfirst => (plain_settingsOf rest).bind fun more hmore =>
      .done (Group.Plain.append hfirst hmore)
    by_cases hname : name = includeName
    · rw [if_pos hname]
      exact plain_includedBy value
    · rw [if_neg hname]
      refine (plain_valueOf value).bind fun value h => .done ?_
      cases value <;> simp_all [Group.Plain, eq_comm]
  | (.null, _) :: _ | (.bool _, _) :: _ | (.integer _, _) :: _ | (.float _, _) :: _
  | (.sequence _, _) :: _ | (.mapping _, _) :: _ | (.tagged _ _, _) :: _ => by
    rw [settingsOf]
    · exact .failed _ _ _
    all_goals simp

end

end TilingConfig.Yaml
