import TilingConfig.Proofs.Yaml.Settings

/-!
# Bare trees

A tag says nothing, and a setting or an element that is nothing is as good as none. A tree is
converted like its bare form, in which there is neither, so a setting that is nothing leaves
alone what an earlier file gives. Only a directive that is nothing, or has a target that is
nothing, counts: it is at fault.
-/

namespace TilingConfig.Yaml

open TilingConfig.Document TilingConfig.Files

/-- Whether a node is nothing, under any number of tags. -/
def Node.isNothing : Node → Bool
  | .null => true
  | .tagged _ node => node.isNothing
  | _ => false

mutual

/-- A node without tags, and without the elements and settings in it that are nothing. -/
def Node.bare : Node → Node
  | .sequence items => .sequence (bareItems items)
  | .mapping entries => .mapping (bareEntries entries)
  | .tagged _ node => node.bare
  | other => other

/-- The elements that are something, bare. -/
def bareItems : List Node → List Node
  | [] => []
  | item :: rest => if item.isNothing then bareItems rest else item.bare :: bareItems rest

/-- The settings that are something, bare, and the directives without tags. -/
def bareEntries : List (Node × Node) → List (Node × Node)
  | [] => []
  | (.string name, value) :: rest =>
    if name = includeName then (.string name, value.bareDirective) :: bareEntries rest
    else if value.isNothing then bareEntries rest
    else (.string name, value.bare) :: bareEntries rest
  | entry :: rest => entry :: bareEntries rest

/-- A directive without tags; each of its targets is kept. -/
def Node.bareDirective : Node → Node
  | .sequence targets => .sequence (bareTargets targets)
  | .mapping entries => .mapping (bareEntries entries)
  | .tagged _ node => node.bareDirective
  | other => other

/-- Several directives without tags. -/
def bareTargets : List Node → List Node
  | [] => []
  | target :: rest => target.bareDirective :: bareTargets rest

end

/-! ## What a tree is converted to -/

/-- What is nothing has no value. -/
theorem valueOf_of_isNothing : ∀ {node : Node}, node.isNothing = true → valueOf node = pure none
  | .null, _ => by rw [valueOf]
  | .tagged _ node, h => by
    rw [Node.isNothing] at h
    rw [valueOf, valueOf_of_isNothing h]

/-- What is something has a value, if it can be converted. -/
theorem exists_valueOf_eq_map : ∀ {node : Node}, node.isNothing = false →
    ∃ conversion, valueOf node = some <$> conversion
  | .sequence items, _ => ⟨Value.array <$> valuesOf items, by rw [valueOf, Functor.map_map]; rfl⟩
  | .mapping entries, _ =>
    ⟨Value.group <$> settingsOf entries, by rw [valueOf, Functor.map_map]; rfl⟩
  | .tagged _ node, h => by
    rw [Node.isNothing] at h
    rw [valueOf]
    exact exists_valueOf_eq_map h
  | .bool b, _ => ⟨pure (.bool b), by rw [valueOf]; rfl⟩
  | .integer n, _ => ⟨pure (wholeValue n), by rw [valueOf]; rfl⟩
  | .float x, _ => ⟨pure (.float x), by rw [valueOf]; rfl⟩
  | .string s, _ => ⟨pure (.str s), by rw [valueOf]; rfl⟩

theorem settingsOfEntry_of_isNothing {name : String} {value : Node} (hname : name ≠ includeName)
    (h : value.isNothing = true) : settingsOfEntry (.string name) value = pure [] := by
  rw [settingsOfEntry, if_neg hname, valueOf_of_isNothing h]
  rfl

/-- A setting that is something is kept, with its value. -/
theorem exists_settingsOfEntry_eq_map {name : String} {value : Node} (hname : name ≠ includeName)
    (h : value.isNothing = false) : ∃ conversion : Conversion Value,
      settingsOfEntry (.string name) value = (fun found => [(name, found)]) <$> conversion := by
  obtain ⟨conversion, hvalue⟩ := exists_valueOf_eq_map h
  refine ⟨conversion, ?_⟩
  rw [settingsOfEntry, if_neg hname, hvalue, bind_pure_comp, Functor.map_map]
  rfl

mutual

theorem includedBy_bareDirective : ∀ node : Node, includedBy node.bareDirective = includedBy node
  | .sequence targets => by
    rw [Node.bareDirective, includedBy, includedBy, includedByAll_bareTargets]
  | .tagged _ node => by rw [Node.bareDirective, includedBy, includedBy_bareDirective]
  | .mapping entries => by
    -- A mapping is no target, whatever stands in it.
    rw [Node.bareDirective, includedBy, includedBy]
    all_goals simp [Node.kindName]
  | .null | .bool _ | .integer _ | .float _ | .string _ => by
    rw [Node.bareDirective]
    all_goals simp

theorem includedByAll_bareTargets : ∀ targets : List Node,
    includedByAll (bareTargets targets) = includedByAll targets
  | [] => by rw [bareTargets]
  | target :: rest => by
    rw [bareTargets, includedByAll_cons, includedByAll_cons, includedBy_bareDirective,
      includedByAll_bareTargets]

end

mutual

theorem valueOf_bare : ∀ node : Node, valueOf node.bare = valueOf node
  | .sequence items => by rw [Node.bare, valueOf, valueOf, valuesOf_bareItems]
  | .mapping entries => by rw [Node.bare, valueOf, valueOf, settingsOf_bareEntries]
  | .tagged _ node => by rw [Node.bare, valueOf, valueOf_bare]
  | .null | .bool _ | .integer _ | .float _ | .string _ => by
    rw [Node.bare]
    all_goals simp

theorem valuesOf_bareItems : ∀ items : List Node, valuesOf (bareItems items) = valuesOf items
  | [] => by rw [bareItems]
  | item :: rest => by
    rw [bareItems, valuesOf_cons]
    cases h : item.isNothing with
    | true =>
      rw [if_pos rfl, valueOf_of_isNothing h, map_pure, Option.toList_none, Conversion.nil_join,
        valuesOf_bareItems]
    | false =>
      rw [if_neg Bool.false_ne_true, valuesOf_cons, valueOf_bare, valuesOf_bareItems]

theorem settingsOf_bareEntries : ∀ entries : List (Node × Node),
    settingsOf (bareEntries entries) = settingsOf entries
  | [] => by rw [bareEntries]
  | (.string name, value) :: rest => by
    rw [bareEntries, settingsOf_cons (.string name) value]
    by_cases hname : name = includeName
    · rw [if_pos hname, settingsOf_cons, settingsOfEntry, settingsOfEntry, if_pos hname,
        if_pos hname, includedBy_bareDirective, settingsOf_bareEntries]
    · rw [if_neg hname]
      cases h : value.isNothing with
      | true =>
        rw [if_pos rfl, settingsOfEntry_of_isNothing hname h, Conversion.nil_join,
          settingsOf_bareEntries]
      | false =>
        rw [if_neg Bool.false_ne_true, settingsOf_cons, settingsOfEntry, settingsOfEntry,
          if_neg hname, if_neg hname, valueOf_bare, settingsOf_bareEntries]
  | (.null, _) :: _ | (.bool _, _) :: _ | (.integer _, _) :: _ | (.float _, _) :: _
  | (.sequence _, _) :: _ | (.mapping _, _) :: _ | (.tagged _ _, _) :: _ => by
    -- A key that is no name ends the conversion before its value is looked at.
    rw [bareEntries, settingsOf, settingsOf]
    all_goals simp

end

/-! ## What is read -/

variable {source : Path} {fetch : String → Reading Group} {before after : List (Node × Node)}
  {name : String} {value : Node} {loader last : Loader} {group : Group}

/-- What is read of a mapping is what is read of the settings before one of them, of this one, and
of those after it. One that is nothing is passed over, and one that is something is kept. -/
theorem exists_run_of_split (hname : name ≠ includeName)
    (h : (settingsOf (before ++ (.string name, value) :: after)).run source fetch loader =
      (.ok group, last)) :
    ∃ earlier mid kept mid' later,
      (settingsOf before).run source fetch loader = (.ok earlier, mid) ∧
      (settingsOf [(.string name, value)]).run source fetch mid = (.ok kept, mid') ∧
      (settingsOf after).run source fetch mid' = (.ok later, last) ∧
      group = earlier ++ (kept ++ later) ∧
      (value.isNothing = true → kept = [] ∧ mid' = mid) ∧
      (value.isNothing = false → ∃ found, kept = [(name, found)]) := by
  rw [settingsOf_append, Conversion.run_join_eq_ok_iff] at h
  obtain ⟨earlier, mid, rest, hearlier, hrest, rfl⟩ := h
  rw [settingsOf_cons, Conversion.run_join_eq_ok_iff] at hrest
  obtain ⟨kept, mid', later, hkept, hlater, rfl⟩ := hrest
  refine ⟨earlier, mid, kept, mid', later, hearlier, ?_, hlater, rfl, fun hnothing => ?_,
    fun hsome => ?_⟩
  · rwa [settingsOf_cons, settingsOf, Conversion.join_nil]
  · rw [settingsOfEntry_of_isNothing hname hnothing] at hkept
    cases hkept
    exact ⟨rfl, rfl⟩
  · obtain ⟨conversion, hentry⟩ := exists_settingsOfEntry_eq_map hname hsome
    rw [hentry, Conversion.run_map_eq_ok_iff] at hkept
    obtain ⟨found, -, rfl⟩ := hkept
    exact ⟨found, rfl⟩

section

variable [Parsers]

/-- A mapping is read like its bare form, wherever it stands and whatever has been read before: with
the same settings or the same error, and with the same loader in the end. So it is read like any
other mapping with this bare form. A setting in it leaves nothing behind if it is nothing, and one
setting of its name if it is not; so one that is nothing hides no earlier setting of its name,
also if a file gives that. -/
theorem nothing_and_tags_invisible (view : View) (room : Nat) (source : Path) (loader : Loader)
    (entries : List (Node × Node)) :
    let read (entries : List (Node × Node)) :=
      (documentSettings (.mapping entries)).run source (fetchFrom (readFile view room) source)
    read (bareEntries entries) loader = read entries loader ∧
      (∀ other, bareEntries other = bareEntries entries → read other loader = read entries loader) ∧
      ∀ group last, read entries loader = (.ok group, last) →
        ∀ before name value after, entries = before ++ (.string name, value) :: after →
          name ≠ includeName →
          ∃ earlier mid kept mid' later, read before loader = (.ok earlier, mid) ∧
            read [(.string name, value)] mid = (.ok kept, mid') ∧
            read after mid' = (.ok later, last) ∧ group = earlier ++ (kept ++ later) ∧
            (value.isNothing = true → kept = [] ∧ mid' = mid ∧
              group.get? name = (later.get? name).or (earlier.get? name)) ∧
            (value.isNothing = false → ∃ found, kept = [(name, found)]) := by
  intro read
  have hbare (entries : List (Node × Node)) : read (bareEntries entries) = read entries := by
    simp only [read, documentSettings, settingsOf_bareEntries]
  refine ⟨congrFun (hbare entries) loader, fun other hsame => ?_, ?_⟩
  · rw [← hbare other, hsame, hbare entries]
  · rintro group last hread before name value after rfl hname
    obtain ⟨earlier, mid, kept, mid', later, hearlier, hkept, hlater, hgroup, hnothing, hsome⟩ :=
      exists_run_of_split hname hread
    refine ⟨earlier, mid, kept, mid', later, hearlier, hkept, hlater, hgroup, fun h => ?_, hsome⟩
    obtain ⟨rfl, rfl⟩ := hnothing h
    refine ⟨rfl, rfl, ?_⟩
    rw [hgroup, List.nil_append, Group.get?_append]

end

open scoped Parsers

/-- A border that is nothing, behind a file that gives one, and before a list with an element that
is nothing; there are tags on all of them. -/
theorem nothing_and_tags_invisible_included_border :
    let view : View :=
      ⟨fun path => if path = ⟨"b.yaml"⟩ then .ok "borderpx: 3" else .error .notFound,
        (· = ⟨"b.yaml"⟩), fun _ => none⟩
    let read (entries : List (Node × Node)) :=
      (documentSettings (.mapping entries)).run ⟨"a.yaml"⟩ (fetchFrom (readFile view 10) ⟨"a.yaml"⟩)
    let before : List (Node × Node) := [(.string includeName, .tagged "!file" (.string "b.yaml"))]
    let after : List (Node × Node) := [(.string "fonts", .sequence
      [.tagged "!a" (.tagged "!b" .null), .tagged "!a" (.tagged "!b" (.string "mono"))])]
    let entries := before ++ (.string "borderpx", .tagged "!a" .null) :: after
    let bare := [(.string includeName, .string "b.yaml"),
      (.string "fonts", .sequence [.string "mono"])]
    let group : Group := [("borderpx", .int 3), ("fonts", .array [.str "mono"])]
    bareEntries entries = bare ∧ read bare .start = read entries .start ∧
      (read entries .start).1 = .ok group ∧
      ∃ earlier mid later, read before .start = (.ok earlier, mid) ∧
        (read after mid).1 = .ok later ∧
        group.get? "borderpx" = (later.get? "borderpx").or (earlier.get? "borderpx") := by
  intro view read before after entries bare group
  have hbare : bareEntries entries = bare := by
    simp [entries, before, after, bare, bareEntries, bareItems, Node.bare, Node.bareDirective,
      Node.isNothing, includeName]
  have hgroup : (read entries .start).1 = .ok group := by rfl
  obtain ⟨hsame, -, hsplit⟩ := nothing_and_tags_invisible view 10 ⟨"a.yaml"⟩ .start entries
  rw [hbare] at hsame
  obtain ⟨earlier, mid, kept, mid', later, hearlier, -, hlater, -, hnothing, -⟩ :=
    hsplit group _ (Prod.ext hgroup rfl) before "borderpx" _ after rfl (by decide)
  obtain ⟨-, rfl, hget⟩ := hnothing (by decide)
  exact ⟨hbare, hsame, hgroup, earlier, mid', later, hearlier, congrArg Prod.fst hlater, hget⟩

end TilingConfig.Yaml
