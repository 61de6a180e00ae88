import TilingConfig.Proofs.Files.Edit
import TilingConfig.Proofs.Watch.WatchedSet

/-!
# Edits that are noticed

A watcher looks at the directories of the files that its paths led to when it started. An edit
is noticed if it touches one of these files. An edit of a link on the way to a file is not,
although what the path reads may be another text after it.
-/

namespace TilingConfig.Watch

open TilingConfig.Files

namespace Handler

variable {handler : Handler} {view : View} {arrivals : List Arrival} {place directory : Place}
  {name : String}

/-! ## Single notices -/

/-- A file is an entry of a directory just if it has its path, with the name behind it. -/
theorem isEntryOf_iff (hplace : IsPlain place) (hdirectory : IsPlain directory) :
    isEntryOf (.ofNames place) name (.ofNames directory) = true ↔ place = directory ++ [name] := by
  rcases List.eq_nil_or_concat place with rfl | ⟨parent, last, rfl⟩
  · have hnone : (Path.ofNames []).fileName? = none := by decide
    simp [isEntryOf, hnone]
  · rw [List.concat_eq_append] at hplace ⊢
    have hparent := hplace.of_append.1
    rw [isEntryOf, Path.fileName?_ofNames hplace, Path.parent?_ofNames hplace, Option.map_some,
      Path.components_ofNames hparent, Path.components_ofNames hdirectory]
    simp [and_comm]

/-- The file that a changed entry of a directory is, if it is a watched one. -/
theorem isSome_watched?_iff (hfiles : AreNormal handler.files)
    (hplain : IsPlain (directory ++ [name]))
    (hcanonical : view.canonical (.ofNames directory) = .ofNames directory) :
    (handler.watched? view (.ofNames (directory ++ [name]))).isSome = true ↔
      Path.ofNames (directory ++ [name]) ∈ handler.files := by
  have hdirectory := hplain.of_append.1
  simp only [watched?, Path.fileName?_ofNames hplain, Path.parent?_ofNames hplain, hcanonical,
    List.find?_isSome]
  constructor
  · rintro ⟨file, hfile, hentry⟩
    obtain ⟨place, hplace, rfl⟩ := hfiles file hfile
    rwa [(isEntryOf_iff hplace hdirectory).1 hentry] at hfile
  · exact fun hfile => ⟨_, hfile, (isEntryOf_iff hplain hdirectory).2 rfl⟩

theorem isSome_relevant?_iff {notice : Notice} :
    (handler.relevant? view notice).isSome = true ↔ ∃ kind paths, notice = .change kind paths ∧
      kind.matters = true ∧ ∃ path ∈ paths, (handler.watched? view path).isSome = true := by
  cases notice with
  | trouble message => simp [relevant?]
  | change kind paths =>
    rw [relevant?]
    cases hkind : kind.matters <;> simp [hkind, List.findSome?_isSome_iff]

/-! ## The notices of an edit -/

/-- After the silence, an event is sent if a notice is about a watched file. -/
theorem exists_sent_iff (hdue : ∀ arrival ∈ arrivals, handler.isDue arrival.time = true) :
    (∃ file, some file ∈ (handler.run arrivals).2) ↔
      ∃ arrival ∈ arrivals, (handler.relevant? arrival.view arrival.notice).isSome = true := by
  induction arrivals with
  | nil => simp [run]
  | cons arrival rest ih =>
    obtain ⟨hfirst, hrest⟩ := List.forall_mem_cons.1 hdue
    rw [run_cons]
    rcases hrelevant : handler.relevant? arrival.view arrival.notice with _ | file
    · rw [handle_of_relevant?_eq_none hrelevant]
      simp [hrelevant, ih hrest]
    · rw [handle_of_due hrelevant hfirst]
      simp [hrelevant]

end Handler

/-- The path is that of an entry directly inside one of the directories. -/
def IsInside (directories : List Path) (path : Path) : Prop :=
  ∃ directory ∈ directories, ∃ name, IsName name ∧ path = directory.join ⟨name⟩

/-- What a system tells of an edit of some entries, when directories are watched: the entries
directly inside these are named as created or modified, all of them, and no others. What else it
tells does not matter. -/
structure Tells (directories touched : List Path) (view : View) (now : Nat)
    (arrivals : List Arrival) : Prop where
  later : ∀ arrival ∈ arrivals, arrival.view = view ∧ now ≤ arrival.time
  only : ∀ arrival ∈ arrivals, ∀ kind paths, arrival.notice = .change kind paths →
    kind.matters = true → ∀ path ∈ paths, path ∈ touched ∧ IsInside directories path
  every : ∀ path ∈ touched, IsInside directories path → ∃ arrival ∈ arrivals, ∃ kind paths,
    arrival.notice = .change kind paths ∧ kind.matters = true ∧ path ∈ paths

namespace Watcher

variable {watcher : Watcher} {start tree : Tree} {change : Change} {earlier arrivals : List Arrival}
  {now delay : Nat} {paths : List Path}

/-- The directories that a watcher looks at. -/
def directories (watcher : Watcher) : List Path := watcher.files.filterMap Path.parent?

/-- An event is sent for one of the notices, after those that have come before. -/
def Notices (watcher : Watcher) (earlier arrivals : List Arrival) : Prop :=
  ∃ file, some file ∈ ((watcher.handler.run earlier).1.run arrivals).2

/-- An edit is told of if it touches a watched file, and nothing that is told is about any other
one. -/
theorem Tells.exists_relevant_iff (hfiles : AreNormal watcher.files) (htree : tree.WellFormed)
    (hedit : tree.IsEdit change)
    (htold : Tells watcher.directories (change.touched tree) (change.apply tree).view now
      arrivals) :
    (∃ arrival ∈ arrivals,
        (watcher.handler.relevant? arrival.view arrival.notice).isSome = true) ↔
      ∃ file ∈ watcher.files, file ∈ change.touched tree := by
  have hdiffers := hedit.differsAt htree
  have hafter := hdiffers.wellFormed htree
  -- A touched entry is found by its name and its directory, which is where it was.
  have hwatched : ∀ path ∈ change.touched tree, ∃ directory name, IsPlain (directory ++ [name]) ∧
      path = .ofNames (directory ++ [name]) ∧
      ((watcher.handler.watched? (change.apply tree).view path).isSome = true ↔
        path ∈ watcher.files) := by
    intro path hpath
    rw [Change.touched_eq_map] at hpath
    obtain ⟨place, hplace, rfl⟩ := List.mem_map.1 hpath
    obtain ⟨directory, name, rfl, hname, hdirectory⟩ := (hdiffers.takes place hplace).entry
    rw [← hdiffers.isDirectory_eq] at hdirectory
    have hstands := Tree.stands_of_isDirectory hdirectory
    have hplain := (hafter.isPlain_of_stands hstands).append hname
    exact ⟨directory, name, hplain, rfl,
      Handler.isSome_watched?_iff hfiles hplain (hafter.canonical_ofNames hstands)⟩
  constructor
  · rintro ⟨arrival, harrival, hrelevant⟩
    obtain ⟨kind, paths, hnotice, hmatters, path, hpath, hsome⟩ :=
      Handler.isSome_relevant?_iff.1 hrelevant
    have htouched := (htold.only arrival harrival kind paths hnotice hmatters path hpath).1
    rw [(htold.later arrival harrival).1] at hsome
    obtain ⟨_, _, -, -, hiff⟩ := hwatched path htouched
    exact ⟨path, hiff.1 hsome, htouched⟩
  · rintro ⟨file, hfile, htouched⟩
    obtain ⟨directory, name, hplain, rfl, hiff⟩ := hwatched file htouched
    have hparent : Path.ofNames directory ∈ watcher.directories :=
      List.mem_filterMap.2 ⟨_, hfile, Path.parent?_ofNames hplain⟩
    have hinside : IsInside watcher.directories (.ofNames (directory ++ [name])) :=
      ⟨_, hparent, name, hplain.of_append.2,
        (Path.join_ofNames hplain.of_append.1 hplain.of_append.2).symm⟩
    obtain ⟨arrival, harrival, kind, paths, hnotice, hmatters, hpath⟩ :=
      htold.every _ htouched hinside
    refine ⟨arrival, harrival, Handler.isSome_relevant?_iff.2
      ⟨kind, paths, hnotice, hmatters, _, hpath, ?_⟩⟩
    rw [(htold.later arrival harrival).1]
    exact hiff.2 hfile

/-- Long enough after the last event, an edit is noticed just if a watched file is touched. -/
theorem notices_iff (hfresh : watcher.handler.lastSent = none) (hfiles : AreNormal watcher.files)
    (htree : tree.WellFormed) (hedit : tree.IsEdit change)
    (htold : Tells watcher.directories (change.touched tree) (change.apply tree).view now arrivals)
    (hquiet : ∀ sent ∈ watcher.handler.sentTimes earlier, sent + watcher.handler.delay ≤ now) :
    watcher.Notices earlier arrivals ↔ ∃ file ∈ watcher.files, file ∈ change.touched tree := by
  have hdue : ∀ arrival ∈ arrivals,
      (watcher.handler.run earlier).1.isDue arrival.time = true := by
    intro arrival harrival
    have hlater := (htold.later arrival harrival).2
    rw [Handler.isDue_iff, Handler.lastSent_run, hfresh, Option.or_none, Handler.delay_run]
    intro sent hsent
    have := hquiet sent (List.mem_of_getLast? hsent)
    omega
  rw [Notices, Handler.exists_sent_iff hdue, ← Tells.exists_relevant_iff hfiles htree hedit htold]
  simp only [Handler.relevant?_congr (Handler.files_run earlier)]

/-- An edit is noticed exactly if it touches one of the files that the paths of the watch led to
when it started. If it is not, and a path that still leads to its file reads another text
after the edit, then the path leads elsewhere after it: a link on the way has been replaced. -/
theorem edit_noticed_iff (hstart : start.WellFormed)
    (hwatcher : Watcher.ofPaths start.view paths delay = .ok watcher)
    (hedited : start.Edited tree) (hedit : tree.IsEdit change)
    (htold : Tells watcher.directories (change.touched tree) (change.apply tree).view now arrivals)
    (hquiet : ∀ sent ∈ watcher.handler.sentTimes earlier, sent + delay ≤ now) :
    let after := change.apply tree
    (watcher.Notices earlier arrivals ↔ ∃ file ∈ watcher.files, file ∈ change.touched tree) ∧
      ∀ path ∈ paths, ∀ text, after.read path = .ok text → tree.read path ≠ .ok text →
        tree.view.canonical? path = start.view.canonical? path →
          watcher.Notices earlier arrivals ∨
            after.view.canonical? path ≠ tree.view.canonical? path ∧
              ∃ place target, Path.ofNames place ∈ change.touched tree ∧
                tree.entryAt? place = some (.link target) := by
  intro after
  obtain ⟨hthere, rfl⟩ := ofPaths_eq_ok hstart.lawful_view hwatcher
  have hreachable : Reachable _ := .ofPaths hstart.lawful_view hwatcher
  have htree := (hedited.wellFormed_isDirectory hstart).1
  have hdiffers := hedit.differsAt htree
  have hiff := notices_iff rfl hreachable.areNormal_nodup.1 htree hedit htold hquiet
  refine ⟨hiff, fun path hpath text hread hchanged hsame => or_iff_not_imp_left.2 fun hsilent => ?_⟩
  -- The path leads to a watched file, and the edit does not touch that.
  obtain ⟨file, hcanonical⟩ := (hstart.lawful_view.exists_iff path).1 (hthere path hpath)
  rw [hcanonical] at hsame
  obtain ⟨place, hlocate, rfl⟩ := Tree.canonical?_view_eq_some_iff.1 hsame
  have huntouched : place ∉ change.places tree := by
    intro htouched
    refine hsilent (hiff.2 ⟨.ofNames place, ?_, ?_⟩)
    · exact List.mem_eraseDups.2
        ((mem_map_canonical_iff hstart.lawful_view hthere).2 ⟨path, hpath, hcanonical⟩)
    · rw [Change.touched_eq_map]
      exact List.mem_map_of_mem htouched
  have hmoved : after.locate path ≠ .ok place := by
    intro hlocate'
    rw [hdiffers.read_eq hlocate hlocate' huntouched] at hread
    exact hchanged hread
  constructor
  · rw [hsame]
    intro hsame'
    obtain ⟨goal, hgoal, hnames⟩ := Tree.canonical?_view_eq_some_iff.1 hsame'
    have hafter := hdiffers.wellFormed htree
    have hplain := htree.isPlain_of_stands (htree.stands_of_locate hlocate)
    have hplain' := hafter.isPlain_of_stands (hafter.stands_of_locate hgoal)
    obtain rfl := (Path.ofNames_inj hplain hplain').1 hnames
    exact hmoved hgoal
  · by_contra hnone
    refine hmoved (hdiffers.locate_eq hlocate huntouched fun touched htouched target hlink => ?_)
    refine hnone ⟨touched, target, ?_, hlink⟩
    rw [Change.touched_eq_map]
    exact List.mem_map_of_mem htouched

/-- A file is written through the link that the path of the watch names, at the end of the silence
after an earlier event. -/
theorem edit_noticed_behind_link :
    let tree : Tree := ⟨["d"], [(["d"], .directory), (["d", "v1"], .directory),
      (["d", "v1", "main.yaml"], .file "tags: [a]\n".toUTF8),
      (["d", "main.yaml"], .link ⟨"v1/main.yaml"⟩)]⟩
    let change : Change := .store ⟨"main.yaml"⟩ (.file "tags: [b]\n".toUTF8)
    let told (time : Nat) : Arrival :=
      ⟨(change.apply tree).view, time, .change .modify [⟨"/d/v1/main.yaml"⟩]⟩
    ∃ watcher, Watcher.ofPaths tree.view [⟨"main.yaml"⟩] 100 = .ok watcher ∧
      watcher.handler.sentTimes [told 0] = [0] ∧
      Tells watcher.directories (change.touched tree) (change.apply tree).view 100 [told 100] ∧
      watcher.Notices [told 0] [told 100] := by
  intro tree change told
  have htree : tree.WellFormed := Tree.wellFormed_of_entries (by decide +kernel) (by decide +kernel)
  have hread : tree.view.read ⟨"main.yaml"⟩ = .ok "tags: [a]\n" := by decide +kernel
  have hcanonical : tree.view.canonical? ⟨"main.yaml"⟩ = some ⟨"/d/v1/main.yaml"⟩ := by
    decide +kernel
  have hofPaths := ofPaths_singleton htree.lawful_view hread hcanonical 100
  have hedit : tree.IsEdit change := .write _ _
    ⟨⟨["d", "v1"], "main.yaml", by decide +kernel, by decide +kernel, by decide +kernel⟩,
      by decide +kernel⟩
  have htouched : change.touched tree = [⟨"/d/v1/main.yaml"⟩] := by decide +kernel
  have hinside : IsInside [⟨"/d/v1"⟩] ⟨"/d/v1/main.yaml"⟩ :=
    ⟨⟨"/d/v1"⟩, List.mem_cons_self, "main.yaml", by decide +kernel, by decide +kernel⟩
  have htold : Tells [⟨"/d/v1"⟩] (change.touched tree) (change.apply tree).view 100 [told 100] := by
    rw [htouched]
    refine ⟨List.forall_mem_singleton.2 ⟨rfl, Nat.le_refl 100⟩, ?_, ?_⟩
    · refine List.forall_mem_singleton.2 fun kind paths hnotice _ => ?_
      obtain ⟨-, rfl⟩ := Notice.change.inj hnotice
      exact List.forall_mem_singleton.2 ⟨List.mem_cons_self, hinside⟩
    · refine List.forall_mem_singleton.2 fun _ => ?_
      exact ⟨told 100, List.mem_cons_self, .modify, _, rfl, rfl, List.mem_cons_self⟩
  have hsent : (⟨[⟨"/d/v1/main.yaml"⟩], 100, none⟩ : Handler).sentTimes [told 0] = [0] := by
    decide +kernel
  have hquiet : ∀ sent ∈ (⟨[⟨"/d/v1/main.yaml"⟩], 100, none⟩ : Handler).sentTimes [told 0],
      sent + 100 ≤ 100 := by
    rw [hsent]
    decide
  refine ⟨_, hofPaths, hsent, htold, ?_⟩
  refine (edit_noticed_iff htree hofPaths .refl hedit htold hquiet).1.2 ?_
  exact ⟨⟨"/d/v1/main.yaml"⟩, List.mem_cons_self, htouched ▸ List.mem_cons_self⟩

/-- A link is replaced by another one to a file of the same name. The path of the watch reads
another text, but nothing is told of it, since only the directory of the old file is looked at. -/
theorem replaced_link_unnoticed :
    let tree : Tree := ⟨["d"], [(["d"], .directory), (["d", "v1"], .directory),
      (["d", "v2"], .directory), (["d", "v1", "main.yaml"], .file "tags: [a]\n".toUTF8),
      (["d", "v2", "main.yaml"], .file "tags: [b]\n".toUTF8),
      (["d", "main.yaml"], .link ⟨"v1/main.yaml"⟩), (["d", "next.yaml"], .link ⟨"v2/main.yaml"⟩)]⟩
    let change : Change := .rename ⟨"next.yaml"⟩ ⟨"main.yaml"⟩
    let after := change.apply tree
    tree.WellFormed ∧ tree.IsEdit change ∧ tree.read ⟨"main.yaml"⟩ = .ok "tags: [a]\n" ∧
      after.read ⟨"main.yaml"⟩ = .ok "tags: [b]\n" ∧
      ∃ watcher, Watcher.ofPaths tree.view [⟨"main.yaml"⟩] 100 = .ok watcher ∧
        Tells watcher.directories (change.touched tree) after.view 0 [] ∧
        ∀ arrivals, Tells watcher.directories (change.touched tree) after.view 0 arrivals →
          ¬ watcher.Notices [] arrivals := by
  intro tree change after
  have htree : tree.WellFormed := Tree.wellFormed_of_entries (by decide +kernel) (by decide +kernel)
  have hread : tree.view.read ⟨"main.yaml"⟩ = .ok "tags: [a]\n" := by decide +kernel
  have hcanonical : tree.view.canonical? ⟨"main.yaml"⟩ = some ⟨"/d/v1/main.yaml"⟩ := by
    decide +kernel
  have hofPaths := ofPaths_singleton htree.lawful_view hread hcanonical 100
  have hedit : tree.IsEdit change := .rename _ _ (by decide +kernel) (by decide +kernel)
    ⟨⟨["d"], "main.yaml", by decide +kernel, by decide +kernel, by decide +kernel⟩,
      by decide +kernel⟩ (by decide +kernel)
  have htouched : change.touched tree = [⟨"/d/next.yaml"⟩, ⟨"/d/main.yaml"⟩] := by decide +kernel
  refine ⟨htree, hedit, hread, by decide +kernel, _, hofPaths, ?_, ?_⟩
  · refine ⟨List.forall_mem_nil _, List.forall_mem_nil _, ?_⟩
    rw [htouched]
    rintro path hpath ⟨directory, hdirectory, name, hname, rfl⟩
    obtain rfl : directory = .ofNames ["d", "v1"] := List.mem_singleton.1 hdirectory
    have hplain : IsPlain ["d", "v1"] := by decide
    rw [Path.join_ofNames hplain hname] at hpath
    -- What is inside the old directory has one name more than what is touched.
    have hdeeper (last : String) (hlast : IsPlain ["d", last]) :
        Path.ofNames (["d", "v1"] ++ [name]) ≠ .ofNames ["d", last] := by
      rw [Ne, Path.ofNames_inj (hplain.append hname) hlast]
      intro hsame
      cases congrArg List.length hsame
    rcases List.mem_cons.1 hpath with hnext | hmain
    · exact absurd hnext (hdeeper "next.yaml" (by decide))
    · exact absurd (List.mem_singleton.1 hmain) (hdeeper "main.yaml" (by decide))
  · intro arrivals htold hnotices
    obtain ⟨file, hfile, hfile'⟩ := (notices_iff rfl (Reachable.ofPaths htree.lawful_view
      hofPaths).areNormal_nodup.1 htree hedit htold (List.forall_mem_nil _)).1 hnotices
    obtain rfl := List.mem_singleton.1 hfile
    rw [htouched] at hfile'
    revert hfile'
    decide

end Watcher

end TilingConfig.Watch
