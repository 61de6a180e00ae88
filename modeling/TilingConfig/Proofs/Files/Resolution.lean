import Mathlib.Data.List.Induction
import TilingConfig.Proofs.Files.Path

/-!
# Where paths lead

In a well-formed tree every entry stands in a directory. A path leads from name to name and
from link to link, in directories all the way; what it leads to is no link, and the path of
that place leads nowhere else.
-/

namespace TilingConfig.Files

namespace Tree

/-- Entries have proper names and stand in directories, and so does whoever works in the tree. -/
structure WellFormed (tree : Tree) : Prop where
  plain : ∀ place, (tree.entryAt? place).isSome = true → IsPlain place
  inDirectory : ∀ directory name, (tree.entryAt? (directory ++ [name])).isSome = true →
    tree.isDirectory directory = true
  workingDirectory : tree.isDirectory tree.workingDirectory = true

/-- Something other than a link is at the place. -/
def Stands (tree : Tree) (place : Place) : Prop :=
  ∃ entry, tree.entryAt? place = some entry ∧ ∀ target, entry ≠ .link target

/-- Names lead from one place to another, through at most the given number of links. -/
inductive Leads (tree : Tree) : Nat → Place → List String → Place → Prop
  | arrived {links : Nat} {place : Place} : Leads tree links place [] place
  | here {links : Nat} {place goal : Place} {rest : List String}
      (inside : tree.isDirectory place = true) (more : Leads tree links place rest goal) :
      Leads tree links place ("." :: rest) goal
  | up {links : Nat} {place goal : Place} {rest : List String}
      (inside : tree.isDirectory place = true) (more : Leads tree links place.dropLast rest goal) :
      Leads tree links place (".." :: rest) goal
  | link {links : Nat} {place goal : Place} {name : String} {target : Path} {rest : List String}
      (inside : tree.isDirectory place = true) (dot : name ≠ ".") (dots : name ≠ "..")
      (short : name.utf8ByteSize ≤ maxNameBytes)
      (entry : tree.entryAt? (place ++ [name]) = some (.link target))
      (more : Leads tree links (start place target) (route target ++ rest) goal) :
      Leads tree (links + 1) place (name :: rest) goal
  | down {links : Nat} {place goal : Place} {name : String} {rest : List String}
      (inside : tree.isDirectory place = true) (dot : name ≠ ".") (dots : name ≠ "..")
      (short : name.utf8ByteSize ≤ maxNameBytes) (stands : tree.Stands (place ++ [name]))
      (more : Leads tree links (place ++ [name]) rest goal) :
      Leads tree links place (name :: rest) goal

variable {tree : Tree} {place goal : Place} {name : String} {names : List String}

theorem isDirectory_iff : tree.isDirectory place = true ↔ tree.entryAt? place = some .directory :=
  beq_iff_eq

@[simp] theorem isDirectory_nil : tree.isDirectory [] = true := isDirectory_iff.2 rfl

theorem isDirectory_start (h : tree.isDirectory place = true) (path : Path) :
    tree.isDirectory (start place path) = true := by
  rw [start]
  split
  · exact isDirectory_nil
  · exact h

theorem stands_of_isDirectory (h : tree.isDirectory place = true) : tree.Stands place :=
  ⟨.directory, isDirectory_iff.1 h, fun _ => Entry.noConfusion⟩

theorem Stands.isSome (h : tree.Stands place) : (tree.entryAt? place).isSome = true := by
  obtain ⟨entry, hentry, -⟩ := h
  rw [hentry]
  rfl

/-! ## Walks -/

theorem walkWith_cons_eq_ok_iff {follow : Place → List String → Except ReadError Place} :
    tree.walkWith follow place (name :: names) = .ok goal ↔
      tree.isDirectory place = true ∧
        (name = "." ∧ tree.walkWith follow place names = .ok goal ∨
          name = ".." ∧ tree.walkWith follow place.dropLast names = .ok goal ∨
          (name ≠ "." ∧ name ≠ ".." ∧ name.utf8ByteSize ≤ maxNameBytes) ∧
            ((∃ target, tree.entryAt? (place ++ [name]) = some (.link target) ∧
                follow (start place target) (route target ++ names) = .ok goal) ∨
              tree.Stands (place ++ [name]) ∧
                tree.walkWith follow (place ++ [name]) names = .ok goal)) := by
  rw [walkWith]
  by_cases hinside : tree.isDirectory place = true
  · by_cases hdot : name = "."
    · subst hdot
      simp [hinside]
    · by_cases hdots : name = ".."
      · subst hdots
        simp [hinside]
      · by_cases hlong : maxNameBytes < name.utf8ByteSize
        · simp [hinside, hdot, hdots, hlong, Nat.not_le.2 hlong]
        · rcases hentry : tree.entryAt? (place ++ [name]) with _ | (content | target | _)
          · simp [hinside, hdot, hdots, hlong, Stands, hentry]
          · simp [hinside, hdot, hdots, hlong, Nat.not_lt.1 hlong, Stands, hentry]
          · simp [hinside, hdot, hdots, hlong, Nat.not_lt.1 hlong, Stands, hentry]
          · simp [hinside, hdot, hdots, hlong, Nat.not_lt.1 hlong, Stands, hentry]
  · simp [hinside]

/-- What is known of the ways behind links is known of the whole way. -/
theorem leads_of_walkWith {links : Nat} {follow : Place → List String → Except ReadError Place}
    (hfollow : ∀ place names goal, follow place names = .ok goal →
      ∃ fewer, links = fewer + 1 ∧ tree.Leads fewer place names goal)
    (h : tree.walkWith follow place names = .ok goal) : tree.Leads links place names goal := by
  induction names generalizing place with
  | nil =>
    obtain rfl : place = goal := Except.ok.inj h
    exact .arrived
  | cons name names ih =>
    obtain ⟨hinside, ⟨rfl, hmore⟩ | ⟨rfl, hmore⟩ | ⟨⟨hdot, hdots, hshort⟩, hentry⟩⟩ :=
      walkWith_cons_eq_ok_iff.1 h
    · exact .here hinside (ih hmore)
    · exact .up hinside (ih hmore)
    · rcases hentry with ⟨target, hlink, hmore⟩ | ⟨hstands, hmore⟩
      · obtain ⟨fewer, rfl, hleads⟩ := hfollow _ _ _ hmore
        exact .link hinside hdot hdots hshort hlink hleads
      · exact .down hinside hdot hdots hshort hstands (ih hmore)

/-- A walk arrives where the names lead. -/
theorem walk_eq_ok_iff_leads {links : Nat} :
    tree.walk links place names = .ok goal ↔ tree.Leads links place names goal := by
  constructor
  · intro h
    induction links generalizing place names goal with
    | zero =>
      refine leads_of_walkWith (fun place names goal hfollow => ?_) h
      cases hfollow
    | succ links ih =>
      exact leads_of_walkWith (fun place names goal hfollow => ⟨links, rfl, ih hfollow⟩) h
  · intro h
    induction h with
    | @arrived links => cases links <;> rfl
    | @here links _ _ _ hinside _ ih =>
      cases links <;> exact walkWith_cons_eq_ok_iff.2 ⟨hinside, Or.inl ⟨rfl, ih⟩⟩
    | @up links _ _ _ hinside _ ih =>
      cases links <;> exact walkWith_cons_eq_ok_iff.2 ⟨hinside, Or.inr (Or.inl ⟨rfl, ih⟩)⟩
    | link hinside hdot hdots hshort hlink _ ih =>
      exact walkWith_cons_eq_ok_iff.2
        ⟨hinside, Or.inr (Or.inr ⟨⟨hdot, hdots, hshort⟩, Or.inl ⟨_, hlink, ih⟩⟩)⟩
    | @down links _ _ _ _ hinside hdot hdots hshort hstands _ ih =>
      cases links <;> exact walkWith_cons_eq_ok_iff.2
        ⟨hinside, Or.inr (Or.inr ⟨⟨hdot, hdots, hshort⟩, Or.inr ⟨hstands, ih⟩⟩)⟩

/-! ## Well-formed trees -/

/-- A tree is well-formed if its list of entries is. -/
theorem wellFormed_of_entries
    (hentries : ∀ entry ∈ tree.entries,
      IsPlain entry.1 ∧ tree.isDirectory entry.1.dropLast = true)
    (hworking : tree.isDirectory tree.workingDirectory = true) : tree.WellFormed := by
  have hplace {place : Place} (h : (tree.entryAt? place).isSome = true) :
      IsPlain place ∧ tree.isDirectory place.dropLast = true := by
    by_cases hroot : place = []
    · subst hroot
      exact ⟨IsPlain.nil, isDirectory_nil⟩
    · rw [entryAt?, if_neg (by simpa using hroot), Option.isSome_map,
        List.find?_isSome] at h
      obtain ⟨entry, hentry, hsame⟩ := h
      obtain rfl := beq_iff_eq.1 hsame
      exact hentries entry hentry
  refine ⟨fun place h => (hplace h).1, fun directory name h => ?_, hworking⟩
  have hdirectory := (hplace h).2
  rwa [List.dropLast_concat] at hdirectory

namespace WellFormed

variable (htree : tree.WellFormed)
include htree

theorem isPlain_of_stands (h : tree.Stands place) : IsPlain place := htree.plain place h.isSome

/-- All that is above an entry are directories. -/
theorem isDirectory_of_append {rest : List String}
    (h : (tree.entryAt? (place ++ rest)).isSome = true) (hrest : rest ≠ []) :
    tree.isDirectory place = true := by
  induction rest using List.reverseRecOn with
  | nil => exact absurd rfl hrest
  | append_singleton names name ih =>
    rw [← List.append_assoc] at h
    have hdirectory := htree.inDirectory _ name h
    by_cases hnames : names = []
    · rwa [hnames, List.append_nil] at hdirectory
    · exact ih (stands_of_isDirectory hdirectory).isSome hnames

/-- Whatever is on the way to a thing stands, too. -/
theorem stands_of_append {rest : List String} (h : tree.Stands (place ++ rest)) :
    tree.Stands place := by
  by_cases hrest : rest = []
  · rwa [hrest, List.append_nil] at h
  · exact stands_of_isDirectory (htree.isDirectory_of_append h.isSome hrest)

/-- The directory around a directory is one. -/
theorem isDirectory_dropLast (h : tree.isDirectory place = true) :
    tree.isDirectory place.dropLast = true := by
  rcases List.eq_nil_or_concat place with rfl | ⟨directory, name, rfl⟩
  · exact h
  · rw [List.concat_eq_append] at h
    rw [List.concat_eq_append, List.dropLast_concat]
    exact htree.inDirectory directory name (stands_of_isDirectory h).isSome

/-- What names lead to stands. -/
theorem stands_of_leads {links : Nat} (hplace : tree.Stands place)
    (h : tree.Leads links place names goal) : tree.Stands goal := by
  induction h with
  | arrived => exact hplace
  | here _ _ ih => exact ih hplace
  | up hinside _ ih => exact ih (stands_of_isDirectory (htree.isDirectory_dropLast hinside))
  | link hinside _ _ _ _ _ ih => exact ih (stands_of_isDirectory (isDirectory_start hinside _))
  | down _ _ _ _ hstands _ ih => exact ih hstands

/-- Names that lead to a thing by themselves lead nowhere else. -/
theorem eq_append_of_leads {links : Nat} (h : tree.Leads links place names goal)
    (hstands : tree.Stands (place ++ names)) : goal = place ++ names := by
  induction h with
  | arrived => rw [List.append_nil]
  | here =>
    have hname := htree.isPlain_of_stands hstands "." (by simp)
    exact absurd rfl hname.ne_dot
  | up =>
    have hname := htree.isPlain_of_stands hstands ".." (by simp)
    exact absurd rfl hname.ne_dots
  | @link _ place _ name target rest _ _ _ _ hlink =>
    rw [List.append_cons] at hstands
    obtain ⟨entry, hentry, hnoLink⟩ := htree.stands_of_append hstands
    exact absurd (Option.some.inj (hentry.symm.trans hlink)) (hnoLink target)
  | down _ _ _ _ _ _ ih =>
    rw [List.append_cons] at hstands ⊢
    exact ih hstands

end WellFormed

/-! ## Paths -/

/-- A path that is located leads to its place, and is no longer than a system allows. -/
theorem locate_eq_ok_iff {path : Path} :
    tree.locate path = .ok place ↔
      ('\x00' ∉ path.text.toList ∧ path.text ≠ "" ∧ path.text.utf8ByteSize < pathBytesLimit) ∧
        tree.Leads maxLinks (start tree.workingDirectory path) (route path) place := by
  rw [locate, ← walk_eq_ok_iff_leads]
  by_cases hnul : '\x00' ∈ path.text.toList
  · simp [hnul]
  · by_cases hempty : path.text = ""
    · simp [hempty]
    · by_cases hlong : pathBytesLimit ≤ path.text.utf8ByteSize
      · simp [hnul, hempty, hlong, Nat.not_lt.2 hlong]
      · simp [hnul, hempty, hlong, Nat.not_le.1 hlong]

theorem canonical?_view_eq_some_iff {path file : Path} :
    tree.view.canonical? path = some file ↔
      ∃ place, tree.locate path = .ok place ∧ file = .ofNames place := by
  simp only [view]
  cases tree.locate path with
  | error e => simp [Except.toOption]
  | ok place => simp [Except.toOption, eq_comm]

/-- The text of a path is that of the file that it leads to. -/
theorem read_eq_ok_iff {path : Path} {text : String} :
    tree.read path = .ok text ↔ ∃ place content, tree.locate path = .ok place ∧
      tree.entryAt? place = some (.file content) ∧ String.fromUTF8? content = some text := by
  rw [read]
  rcases hlocate : tree.locate path with e | place
  · simp
  · rcases hentry : tree.entryAt? place with _ | (content | target | _)
    · simp [hentry]
    · cases htext : String.fromUTF8? content <;> simp [hentry, htext]
    · simp [hentry]
    · simp [hentry]

theorem route_ofNames (hplace : place ≠ []) (hplain : IsPlain place) :
    route (.ofNames place) = place := by
  have hfilter : place.filter (· != "") = place :=
    List.filter_eq_self.2 fun name hname => by simp [(hplain name hname).ne_empty]
  rw [route, Path.parts_ofNames hplace hplain, if_neg (Path.getLast?_ofNames hplace hplain),
    List.append_nil]
  exact hfilter

namespace WellFormed

variable (htree : tree.WellFormed)
include htree

theorem stands_of_locate {path : Path} (h : tree.locate path = .ok place) : tree.Stands place := by
  have hstart := isDirectory_start htree.workingDirectory path
  exact htree.stands_of_leads (stands_of_isDirectory hstart) (locate_eq_ok_iff.1 h).2

/-- The path of a thing leads there and nowhere else. -/
theorem eq_of_locate_ofNames (hstands : tree.Stands place)
    (h : tree.locate (.ofNames place) = .ok goal) : goal = place := by
  have hleads := (locate_eq_ok_iff.1 h).2
  rw [start, Path.isAbsolute_ofNames, if_pos rfl] at hleads
  by_cases hroot : place = []
  · subst hroot
    have hwalk : tree.walkWith (tree.walk 39) [] ["."] = .ok goal :=
      walk_eq_ok_iff_leads.2 hleads
    simpa [walkWith, eq_comm] using hwalk
  · rw [route_ofNames hroot (htree.isPlain_of_stands hstands)] at hleads
    exact htree.eq_append_of_leads hleads hstands

/-- The path of a thing is its canonical path, even where it is too long to be followed. -/
theorem canonical_ofNames (hstands : tree.Stands place) :
    tree.view.canonical (.ofNames place) = .ofNames place := by
  rw [View.canonical]
  rcases hcanonical : tree.view.canonical? (.ofNames place) with _ | file
  · rfl
  · obtain ⟨goal, hlocate, rfl⟩ := canonical?_view_eq_some_iff.1 hcanonical
    rw [htree.eq_of_locate_ofNames hstands hlocate]
    rfl

end WellFormed

end Tree

/-- What a system keeps to: what is there has a canonical path, a file that can be read is an entry
of a directory, and canonical paths are the names from the root, without links and detours. -/
structure View.Lawful (view : View) : Prop where
  exists_iff : ∀ path, view.exists? path = true ↔ ∃ file, view.canonical? path = some file
  canonical_of_read : ∀ path text, view.read path = .ok text →
    ∃ directory name, IsPlain (directory ++ [name]) ∧
      view.canonical? path = some (.ofNames (directory ++ [name]))
  plain_of_canonical : ∀ path file, view.canonical? path = some file →
    ∃ place, IsPlain place ∧ file = .ofNames place
  canonical_canonical : ∀ path file, view.canonical? path = some file → view.canonical file = file

/-- What can be read is there. -/
theorem View.Lawful.exists_of_read {view : View} (hview : view.Lawful) {path : Path}
    {text : String} (h : view.read path = .ok text) : view.exists? path = true := by
  obtain ⟨directory, name, -, hcanonical⟩ := hview.canonical_of_read path text h
  exact (hview.exists_iff path).2 ⟨_, hcanonical⟩

/-- Every well-formed tree is seen like this. -/
theorem Tree.WellFormed.lawful_view {tree : Tree} (htree : tree.WellFormed) :
    tree.view.Lawful where
  exists_iff path := by
    simp only [Tree.view]
    cases tree.locate path <;> simp [Except.toOption]
  canonical_of_read path text h := by
    obtain ⟨place, content, hlocate, hentry, -⟩ := Tree.read_eq_ok_iff.1 h
    have hplain := htree.isPlain_of_stands (htree.stands_of_locate hlocate)
    have hcanonical := Tree.canonical?_view_eq_some_iff.2 ⟨place, hlocate, rfl⟩
    rcases List.eq_nil_or_concat place with rfl | ⟨directory, name, rfl⟩
    · cases hentry
    · rw [List.concat_eq_append] at hplain hcanonical
      exact ⟨directory, name, hplain, hcanonical⟩
  plain_of_canonical path file h := by
    obtain ⟨place, hlocate, rfl⟩ := Tree.canonical?_view_eq_some_iff.1 h
    exact ⟨place, htree.isPlain_of_stands (htree.stands_of_locate hlocate), rfl⟩
  canonical_canonical path file h := by
    obtain ⟨place, hlocate, rfl⟩ := Tree.canonical?_view_eq_some_iff.1 h
    exact htree.canonical_ofNames (htree.stands_of_locate hlocate)

end TilingConfig.Files
