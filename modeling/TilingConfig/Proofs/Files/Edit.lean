import Mathlib.Logic.Relation
import TilingConfig.Files.Change
import TilingConfig.Proofs.Files.Resolution

/-!
# Edits of files and links

An edit writes a file, puts a link or moves one of either to another place. It changes nothing
but the places that it touches, and there are no directories in these, before or after. So all
directories stay, and a path leads where it led, unless a link on its way is touched.
-/

namespace TilingConfig.Files

variable {tree after : Tree} {place other : Place} {entry : Entry}

namespace Tree

/-! ## Single entries -/

/-- A list that is cut down by places holds the same at the places that are left. -/
theorem find?_filter_place (holds : Place → Bool) (entries : List (Place × Entry)) :
    (entries.filter fun old => holds old.1).find? (fun old => old.1 == place) =
      if holds place then entries.find? (fun old => old.1 == place) else none := by
  split
  · next hplace =>
    rw [List.find?_filter]
    congr 1
    funext old
    by_cases hsame : old.1 = place
    · simp [hsame, hplace]
    · simp [hsame]
  · next hplace =>
    refine List.find?_eq_none.2 fun old hold hsame => hplace ?_
    rw [← beq_iff_eq.1 hsame]
    exact (List.mem_filter.1 hold).2

theorem entryAt?_of_ne_nil (hplace : place ≠ []) :
    tree.entryAt? place = (tree.entries.find? fun old => old.1 == place).map Prod.snd :=
  if_neg (by simpa using hplace)

theorem entryAt?_put (hplace : place ≠ []) (entry : Entry) (other : Place) :
    (tree.put place entry).entryAt? other =
      if other = place then some entry else tree.entryAt? other := by
  by_cases hother : other = []
  · subst hother
    rw [if_neg (Ne.symm hplace)]
    rfl
  · rw [entryAt?_of_ne_nil hother, entryAt?_of_ne_nil hother, put, List.find?_append,
      find?_filter_place fun old => old != place]
    by_cases hsame : other = place
    · simp [hsame]
    · simp [hsame, Ne.symm hsame]

theorem entryAt?_remove (hplace : place ≠ []) (other : Place) :
    (tree.remove place).entryAt? other = if place <+: other then none else tree.entryAt? other := by
  by_cases hother : other = []
  · subst hother
    rw [if_neg fun h => hplace (List.prefix_nil.1 h)]
    rfl
  · rw [entryAt?_of_ne_nil hother, entryAt?_of_ne_nil hother, remove,
      find?_filter_place fun old => !place.isPrefixOf old]
    by_cases hbelow : place <+: other
    · simp [hbelow, List.isPrefixOf_iff_prefix.2 hbelow]
    · have hnot : place.isPrefixOf other = false :=
        Bool.eq_false_iff.2 fun h => hbelow (List.isPrefixOf_iff_prefix.1 h)
      simp [hbelow, hnot]

/-- Directories that are there need not be made. -/
theorem makeParents_eq_self
    (h : ∀ rest parent, parent ++ rest = place → rest ≠ [] →
      (tree.entryAt? parent).isSome = true) :
    tree.makeParents place = tree := by
  have hall : ∀ parent ∈ (List.range place.length).map place.take,
      (tree.entryAt? parent).isSome = true := by
    refine List.forall_mem_map.2 fun count hcount => ?_
    refine h (place.drop count) _ (List.take_append_drop count place) fun hnil => ?_
    have := List.drop_eq_nil_iff.1 hnil
    have := List.mem_range.1 hcount
    omega
  rw [makeParents]
  generalize (List.range place.length).map place.take = parents at hall
  induction parents with
  | nil => rfl
  | cons parent parents ih =>
    obtain ⟨hparent, hparents⟩ := List.forall_mem_cons.1 hall
    rw [List.foldl_cons, if_pos hparent]
    exact ih hparents

/-- Nothing goes with an entry that is moved where nothing is below it. -/
theorem moved_eq_map {source target : Place}
    (hbelow : ∀ old ∈ tree.entries, source <+: old.1 → old.1 = source) :
    ((tree.entries.filter fun old => source.isPrefixOf old.1).map fun old =>
        (target ++ old.1.drop source.length, old.2)) =
      (tree.entries.filter fun old => old.1 == source).map fun old => (target, old.2) := by
  have hfilter : (tree.entries.filter fun old => source.isPrefixOf old.1) =
      tree.entries.filter fun old => old.1 == source := by
    refine List.filter_congr fun old hold => Bool.eq_iff_iff.2 ?_
    rw [List.isPrefixOf_iff_prefix, beq_iff_eq]
    exact ⟨hbelow old hold, fun h => h ▸ List.prefix_refl _⟩
  rw [hfilter]
  refine List.map_congr_left fun old hold => ?_
  rw [beq_iff_eq.1 (List.mem_filter.1 hold).2, List.drop_length, List.append_nil]

/-- A moved entry is found at its new place only. -/
theorem find?_moved {source target : Place} (hsource : source ≠ []) (other : Place) :
    (((tree.entries.filter fun old => old.1 == source).map fun old => (target, old.2)).find?
        fun old => old.1 == other).map Prod.snd =
      if other = target then tree.entryAt? source else none := by
  rw [List.find?_map, Option.map_map]
  by_cases hother : other = target
  · subst hother
    have hall : ((fun old : Place × Entry => old.1 == other) ∘
        fun old : Place × Entry => (other, old.2)) = fun _ => true :=
      funext fun old => beq_self_eq_true other
    have hhead : (tree.entries.find? fun old => old.1 == source) =
        (tree.entries.filter fun old => old.1 == source).head? := List.head?_filter.symm
    rw [hall, if_pos rfl, entryAt?_of_ne_nil hsource, hhead]
    cases tree.entries.filter fun old => old.1 == source <;> rfl
  · have hnone : (tree.entries.filter fun old => old.1 == source).find?
        ((fun old : Place × Entry => old.1 == other) ∘
          fun old : Place × Entry => (target, old.2)) = none :=
      List.find?_eq_none.2 fun old _ hsame => hother (beq_iff_eq.1 hsame).symm
    rw [hnone, if_neg hother]
    rfl

/-- A single entry is moved from one place to another, and nothing else is left at either. -/
theorem entryAt?_rename {source target : Place} (hsource : source ≠ []) (htarget : target ≠ [])
    (hbelow : ∀ old ∈ tree.entries, source <+: old.1 → old.1 = source) (other : Place) :
    (tree.rename source target).entryAt? other =
      if other = target then tree.entryAt? source
      else if source <+: other ∨ target <+: other then none else tree.entryAt? other := by
  by_cases hother : other = []
  · subst hother
    rw [if_neg (Ne.symm htarget), if_neg]
    · rfl
    · rintro (h | h)
      · exact hsource (List.prefix_nil.1 h)
      · exact htarget (List.prefix_nil.1 h)
  · have hrest : ((tree.remove source).remove target).entryAt? other =
        if target <+: other then none else if source <+: other then none
          else tree.entryAt? other := by
      rw [entryAt?_remove htarget, entryAt?_remove hsource]
    rw [entryAt?_of_ne_nil hother] at hrest
    rw [entryAt?_of_ne_nil hother, rename, moved_eq_map hbelow, List.find?_append, Option.map_or,
      hrest, find?_moved hsource]
    by_cases hgoal : other = target
    · rw [if_pos hgoal, if_pos hgoal, if_pos (hgoal ▸ List.prefix_refl target), Option.none_or]
    · rw [if_neg hgoal, if_neg hgoal, Option.or_none]
      by_cases hbehind : target <+: other
      · simp [hbehind]
      · simp [hbehind]

/-! ## Edits -/

/-- A file or a link can come to stand at the place: it is a name in a directory, and no directory
is there. -/
structure Takes (tree : Tree) (place : Place) : Prop where
  entry : ∃ directory name, place = directory ++ [name] ∧ IsName name ∧
    tree.isDirectory directory = true
  free : tree.isDirectory place = false

/-- A file is written or created, a link is put, or a file or link is renamed. -/
inductive IsEdit (tree : Tree) : Change → Prop
  | write (path : Path) (content : ByteArray) (takes : tree.Takes (tree.destination path)) :
      IsEdit tree (.store path (.file content))
  | link (path target : Path) (takes : tree.Takes (tree.ownPlace path)) :
      IsEdit tree (.store path (.link target))
  | rename (source target : Path)
      (there : (tree.entryAt? (tree.ownPlace source)).isSome = true)
      (single : tree.isDirectory (tree.ownPlace source) = false)
      (takes : tree.Takes (tree.ownPlace target))
      (moves : tree.ownPlace source ≠ tree.ownPlace target) :
      IsEdit tree (.rename source target)

/-- The trees differ at these places only, where files and links can stand, and no directory comes
to stand there. -/
structure DiffersAt (tree after : Tree) (places : List Place) : Prop where
  workingDirectory : after.workingDirectory = tree.workingDirectory
  outside : ∀ place, place ∉ places → after.entryAt? place = tree.entryAt? place
  takes : ∀ place ∈ places, tree.Takes place
  free : ∀ place ∈ places, after.isDirectory place = false

end Tree

/-- The places of the entries that a change writes, creates or renames. -/
def Change.places (tree : Tree) : Change → List Place
  | store path entry => [storePlace tree path entry]
  | remove _ => []
  | rename source target => [tree.ownPlace source, tree.ownPlace target]

theorem Change.touched_eq_map (change : Change) (tree : Tree) :
    change.touched tree = (change.places tree).map .ofNames := by
  cases change <;> rfl

namespace Tree

theorem Takes.ne_nil (h : tree.Takes place) : place ≠ [] := by
  obtain ⟨directory, name, rfl, -⟩ := h.entry
  simp

/-- The directories on the way to the place are there. -/
theorem Takes.makeParents_eq_self (htree : tree.WellFormed) (h : tree.Takes place) :
    tree.makeParents place = tree := by
  obtain ⟨directory, name, rfl, -, hdirectory⟩ := h.entry
  refine Tree.makeParents_eq_self fun rest parent hsplit hrest => ?_
  rcases List.eq_nil_or_concat rest with rfl | ⟨names, last, rfl⟩
  · exact absurd rfl hrest
  · rw [List.concat_eq_append, ← List.append_assoc] at hsplit
    obtain ⟨rfl, -⟩ := List.append_inj' hsplit rfl
    exact (htree.stands_of_append (stands_of_isDirectory hdirectory)).isSome

theorem isSome_entryAt?_of_mem {old : Place × Entry} (h : old ∈ tree.entries) :
    (tree.entryAt? old.1).isSome = true := by
  by_cases hroot : old.1 = []
  · rw [hroot]
    rfl
  · rw [entryAt?_of_ne_nil hroot, Option.isSome_map, List.find?_isSome]
    exact ⟨old, h, beq_self_eq_true _⟩

/-- Nothing is below a place where no directory is. -/
theorem WellFormed.eq_of_isSome (htree : tree.WellFormed) (hplace : tree.isDirectory place = false)
    (h : (tree.entryAt? other).isSome = true) (hbelow : place <+: other) : other = place := by
  obtain ⟨rest, rfl⟩ := hbelow
  by_cases hrest : rest = []
  · rw [hrest, List.append_nil]
  · rw [htree.isDirectory_of_append h hrest] at hplace
    cases hplace

/-- To put an entry at a place where it can stand changes that place only. -/
theorem differsAt_put (htree : tree.WellFormed) (htakes : tree.Takes place)
    (hentry : entry ≠ .directory) :
    tree.DiffersAt ((tree.makeParents place).put place entry) [place] := by
  rw [htakes.makeParents_eq_self htree]
  refine ⟨rfl, fun other hother => ?_, List.forall_mem_singleton.2 htakes,
    List.forall_mem_singleton.2 ?_⟩
  · rw [entryAt?_put htakes.ne_nil, if_neg fun h => hother (List.mem_singleton.2 h)]
  · rw [← Bool.not_eq_true, isDirectory_iff, entryAt?_put htakes.ne_nil, if_pos rfl]
    exact fun h => hentry (Option.some.inj h)

/-- To rename a file or link changes the two places only. -/
theorem differsAt_rename (htree : tree.WellFormed) {source target : Place}
    (hthere : (tree.entryAt? source).isSome = true) (hsingle : tree.isDirectory source = false)
    (htakes : tree.Takes target) (hmoves : source ≠ target) :
    tree.DiffersAt (tree.rename source target) [source, target] := by
  have hsource : tree.Takes source := by
    rcases List.eq_nil_or_concat source with rfl | ⟨directory, name, rfl⟩
    · rw [isDirectory_nil] at hsingle
      cases hsingle
    · rw [List.concat_eq_append] at hthere hsingle ⊢
      exact ⟨⟨directory, name, rfl, (htree.plain _ hthere).of_append.2,
        htree.inDirectory _ _ hthere⟩, hsingle⟩
  have hentryAt := entryAt?_rename hsource.ne_nil htakes.ne_nil fun old hold =>
    htree.eq_of_isSome hsingle (isSome_entryAt?_of_mem hold)
  refine ⟨rfl, fun other hother => ?_, ?_, ?_⟩
  · obtain ⟨hne, htarget⟩ : other ≠ source ∧ other ≠ target := by simpa using hother
    rw [hentryAt, if_neg htarget]
    split
    · next hbelow =>
      refine (Option.not_isSome_iff_eq_none.1 fun h => ?_).symm
      rcases hbelow with hbelow | hbelow
      · exact hne (htree.eq_of_isSome hsingle h hbelow)
      · exact htarget (htree.eq_of_isSome htakes.free h hbelow)
    · rfl
  · exact List.forall_mem_cons.2 ⟨hsource, List.forall_mem_singleton.2 htakes⟩
  · have hnone : (tree.rename source target).isDirectory source = false := by
      rw [← Bool.not_eq_true, isDirectory_iff, hentryAt, if_neg hmoves,
        if_pos (Or.inl (List.prefix_refl source))]
      exact fun h => nomatch h
    have hmoved : (tree.rename source target).isDirectory target = false := by
      rw [isDirectory, hentryAt, if_pos rfl]
      exact hsingle
    exact List.forall_mem_cons.2 ⟨hnone, List.forall_mem_singleton.2 hmoved⟩

/-- An edit changes the places that it touches, and nothing else. -/
theorem IsEdit.differsAt (htree : tree.WellFormed) {change : Change} (h : tree.IsEdit change) :
    tree.DiffersAt (change.apply tree) (change.places tree) := by
  cases h with
  | write path content takes => exact differsAt_put htree takes Entry.noConfusion
  | link path target takes => exact differsAt_put htree takes Entry.noConfusion
  | rename source target there single takes moves =>
    exact differsAt_rename htree there single takes moves

/-! ## What an edit leaves as it is -/

namespace DiffersAt

variable {places : List Place}

/-- Directories stay. -/
theorem isDirectory_eq (h : tree.DiffersAt after places) (place : Place) :
    after.isDirectory place = tree.isDirectory place := by
  by_cases hplace : place ∈ places
  · rw [h.free place hplace, (h.takes place hplace).free]
  · rw [isDirectory, isDirectory, h.outside place hplace]

theorem wellFormed (h : tree.DiffersAt after places) (htree : tree.WellFormed) :
    after.WellFormed where
  plain place hplace := by
    by_cases htouched : place ∈ places
    · obtain ⟨directory, name, rfl, hname, hdirectory⟩ := (h.takes place htouched).entry
      exact (htree.isPlain_of_stands (stands_of_isDirectory hdirectory)).append hname
    · rw [h.outside place htouched] at hplace
      exact htree.plain place hplace
  inDirectory directory name hentry := by
    rw [h.isDirectory_eq]
    by_cases htouched : directory ++ [name] ∈ places
    · obtain ⟨directory', name', hsplit, -, hdirectory⟩ := (h.takes _ htouched).entry
      obtain ⟨rfl, -⟩ := List.append_inj' hsplit rfl
      exact hdirectory
    · rw [h.outside _ htouched] at hentry
      exact htree.inDirectory directory name hentry
  workingDirectory := by
    rw [h.workingDirectory, h.isDirectory_eq]
    exact htree.workingDirectory

/-- Names lead where they led, unless a link on the way is touched, or what they led to. -/
theorem leads (h : tree.DiffersAt after places) {links : Nat} {names : List String} {goal : Place}
    (hleads : tree.Leads links place names goal) (hgoal : goal ∉ places)
    (hlinks : ∀ touched ∈ places, ∀ target, tree.entryAt? touched ≠ some (.link target)) :
    after.Leads links place names goal := by
  induction hleads with
  | arrived => exact .arrived
  | here hinside _ ih =>
    rw [← h.isDirectory_eq] at hinside
    exact .here hinside (ih hgoal)
  | up hinside _ ih =>
    rw [← h.isDirectory_eq] at hinside
    exact .up hinside (ih hgoal)
  | link hinside hdot hdots hshort hentry _ ih =>
    rw [← h.isDirectory_eq] at hinside
    rw [← h.outside _ fun htouched => hlinks _ htouched _ hentry] at hentry
    exact .link hinside hdot hdots hshort hentry (ih hgoal)
  | @down _ place _ name rest hinside hdot hdots hshort hstands hmore ih =>
    rw [← h.isDirectory_eq] at hinside
    -- A touched place is no directory, so that it could only be the goal.
    have huntouched : place ++ [name] ∉ places := by
      intro htouched
      cases hmore with
      | arrived => exact hgoal htouched
      | here hdirectory | up hdirectory | link hdirectory | down hdirectory =>
        rw [(h.takes _ htouched).free] at hdirectory
        cases hdirectory
    have hstands' : after.Stands (place ++ [name]) := by
      rwa [Stands, h.outside _ huntouched]
    exact .down hinside hdot hdots hshort hstands' (ih hgoal)

/-- So does a path, and it reads the same. -/
theorem locate_eq (h : tree.DiffersAt after places) {path : Path} {goal : Place}
    (hlocate : tree.locate path = .ok goal) (hgoal : goal ∉ places)
    (hlinks : ∀ touched ∈ places, ∀ target, tree.entryAt? touched ≠ some (.link target)) :
    after.locate path = .ok goal := by
  obtain ⟨hallowed, hleads⟩ := locate_eq_ok_iff.1 hlocate
  rw [← h.workingDirectory] at hleads
  exact locate_eq_ok_iff.2 ⟨hallowed, h.leads hleads hgoal hlinks⟩

theorem read_eq (h : tree.DiffersAt after places) {path : Path} {goal : Place}
    (hlocate : tree.locate path = .ok goal) (hlocate' : after.locate path = .ok goal)
    (hgoal : goal ∉ places) : after.read path = tree.read path := by
  simp only [read, hlocate, hlocate', h.outside goal hgoal]

end DiffersAt

/-- A sequence of edits leads from one tree to the other. -/
def Edited : Tree → Tree → Prop :=
  Relation.ReflTransGen fun tree after => ∃ change, tree.IsEdit change ∧ after = change.apply tree

/-- Whatever is edited, a tree stays well-formed and keeps its directories. -/
theorem Edited.wellFormed_isDirectory {start : Tree} (hstart : start.WellFormed)
    (h : start.Edited tree) :
    tree.WellFormed ∧ ∀ place, tree.isDirectory place = start.isDirectory place := by
  induction h with
  | refl => exact ⟨hstart, fun _ => rfl⟩
  | tail _ hstep ih =>
    obtain ⟨change, hedit, rfl⟩ := hstep
    obtain ⟨htree, hdirectories⟩ := ih
    have hdiffers := hedit.differsAt htree
    refine ⟨hdiffers.wellFormed htree, fun place => ?_⟩
    rw [hdiffers.isDirectory_eq, hdirectories]

end Tree

end TilingConfig.Files
