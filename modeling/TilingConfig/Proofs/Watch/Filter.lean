import TilingConfig.Proofs.Watch.Noticing

/-!
# What a handler lets through

Of all that a handler is told, the notices about watched files matter and no others: they
lead to events, each at least the delay after the event before it. All other notices can come
or stay away without any effect on the events.
-/

namespace TilingConfig.Watch

open TilingConfig.Files

/-! ## Notices about watched files -/

/-- A changed path names a file: it ends in the name of the file, and its directory, however
spelled, is that of the file. -/
def Names (view : View) (changed file : Path) : Prop :=
  ∃ name directory folder, changed.fileName? = some name ∧ changed.parent? = some directory ∧
    file.fileName? = some name ∧ file.parent? = some folder ∧
    folder.components = view.identity directory

/-- Something was created or modified, and one of the changed paths names one of the files. -/
def Concerns (files : List Path) (view : View) (notice : Notice) : Prop :=
  ∃ kind paths, notice = .change kind paths ∧ (kind = .create ∨ kind = .modify) ∧
    ∃ changed ∈ paths, ∃ file ∈ files, Names view changed file

variable {files : List Path} {view : View} {changed file other : Path}

/-- Among canonical paths, a changed path names one at most. -/
theorem Names.unique (hfiles : AreNormal files) (hfile : file ∈ files) (hother : other ∈ files)
    (h : Names view changed file) (h' : Names view changed other) : file = other := by
  -- A canonical path is made up of its directory and its name.
  have hpath : ∀ path ∈ files, ∀ name folder, path.fileName? = some name →
      path.parent? = some folder → path = .ofNames (folder.components.names ++ [name]) := by
    intro path hmem name folder hname hfolder
    obtain ⟨place, hplain, rfl⟩ := hfiles path hmem
    rcases List.eq_nil_or_concat place with rfl | ⟨parent, last, rfl⟩
    · have hnone : (Path.ofNames []).fileName? = none := by decide
      rw [hnone] at hname
      cases hname
    · rw [List.concat_eq_append] at hplain hname hfolder ⊢
      rw [Path.fileName?_ofNames hplain, Option.some.injEq] at hname
      rw [Path.parent?_ofNames hplain, Option.some.injEq] at hfolder
      rw [← hname, ← hfolder, Path.components_ofNames hplain.of_append.1]
  obtain ⟨name, directory, folder, hname, hdirectory, hfileName, hfolder, hsame⟩ := h
  obtain ⟨name', directory', folder', hname', hdirectory', hfileName', hfolder', hsame'⟩ := h'
  obtain rfl : name = name' := Option.some.inj (hname.symm.trans hname')
  obtain rfl : directory = directory' := Option.some.inj (hdirectory.symm.trans hdirectory')
  rw [hpath file hfile name folder hfileName hfolder, hsame,
    hpath other hother name folder' hfileName' hfolder', hsame']

theorem ChangeKind.matters_iff {kind : ChangeKind} :
    kind.matters = true ↔ kind = .create ∨ kind = .modify := by
  cases kind <;> simp [ChangeKind.matters]

namespace Handler

variable {handler : Handler} {arrivals before after : List Arrival} {arrival : Arrival}
  {notice : Notice}

theorem isEntryOf_eq_true_iff {name : String} {directory : Path} :
    isEntryOf file name directory = true ↔ file.fileName? = some name ∧
      ∃ folder, file.parent? = some folder ∧ folder.components = directory.components := by
  simp [isEntryOf]

/-- A file that is an entry of a directory by the name of a changed path is named by that path. -/
theorem names_iff {name : String} {directory : Path} (hname : changed.fileName? = some name)
    (hdirectory : changed.parent? = some directory) :
    Names view changed file ↔ isEntryOf file name (view.canonical directory) = true := by
  rw [isEntryOf_eq_true_iff]
  constructor
  · rintro ⟨name', directory', folder, hname', hdirectory', hfileName, hfolder, hsame⟩
    obtain rfl : name = name' := Option.some.inj (hname.symm.trans hname')
    obtain rfl : directory = directory' := Option.some.inj (hdirectory.symm.trans hdirectory')
    exact ⟨hfileName, folder, hfolder, hsame⟩
  · rintro ⟨hfileName, folder, hfolder, hsame⟩
    exact ⟨name, directory, folder, hname, hdirectory, hfileName, hfolder, hsame⟩

/-- No file is found for a changed path just if it names none that is watched. -/
theorem watched?_eq_none_iff :
    handler.watched? view changed = none ↔ ∀ file ∈ handler.files, ¬ Names view changed file := by
  rw [watched?]
  split
  · next name directory hname hdirectory =>
    rw [List.find?_eq_none]
    exact forall₂_congr fun file _ => not_congr (names_iff hname hdirectory).symm
  · next hnone =>
    refine iff_of_true rfl fun file _ h => ?_
    obtain ⟨name, directory, -, hname, hdirectory, -⟩ := h
    exact hnone name directory hname hdirectory

/-- The file that is found for a changed path is a watched one that it names. -/
theorem mem_files_of_watched? (h : handler.watched? view changed = some file) :
    file ∈ handler.files ∧ Names view changed file := by
  rw [watched?] at h
  split at h
  · next name directory hname hdirectory =>
    have hentry := List.find?_some h
    exact ⟨List.mem_of_find?_eq_some h, (names_iff hname hdirectory).2 hentry⟩
  · cases h

/-- A notice leads to a watched file just if it concerns one. -/
theorem isSome_relevant?_iff_concerns :
    (handler.relevant? view notice).isSome = true ↔ Concerns handler.files view notice := by
  rw [isSome_relevant?_iff]
  refine exists₂_congr fun kind paths => and_congr_right fun _ =>
    and_congr ChangeKind.matters_iff ?_
  refine exists_congr fun changed => and_congr_right fun _ => ?_
  rw [← Option.ne_none_iff_isSome, Ne, watched?_eq_none_iff]
  simp

/-- The file of a notice is the watched one that is named by the first path that names any. -/
theorem exists_first_of_relevant? (h : handler.relevant? view notice = some file) :
    ∃ kind skipped changed rest, notice = .change kind (skipped ++ changed :: rest) ∧
      (∀ path ∈ skipped, ∀ other ∈ handler.files, ¬ Names view path other) ∧
      file ∈ handler.files ∧ Names view changed file := by
  cases notice with
  | trouble message => cases h
  | change kind paths =>
    rw [relevant?] at h
    split at h
    · obtain ⟨skipped, changed, rest, rfl, hfile, hskipped⟩ := List.findSome?_eq_some_iff.1 h
      exact ⟨kind, skipped, changed, rest, rfl,
        fun path hpath => watched?_eq_none_iff.1 (hskipped path hpath),
        mem_files_of_watched? hfile⟩
    · cases h

instance : Decidable (Concerns files view notice) :=
  decidable_of_iff ((⟨files, 0, none⟩ : Handler).relevant? view notice).isSome
    isSome_relevant?_iff_concerns

/-! ## The events of a sequence -/

/-- The event for the notice at a place of a sequence. -/
def eventAt? (handler : Handler) (arrivals : List Arrival) (k : Nat) : Option Path :=
  (handler.run arrivals).2[k]?.join

/-- The events of a sequence of notices, each with its time. -/
def sent (handler : Handler) (arrivals : List Arrival) : List (Nat × Path) :=
  (arrivals.zip (handler.run arrivals).2).filterMap fun (arrival, event) =>
    event.map fun file => (arrival.time, file)

theorem isSome_handle_iff : (handler.handle arrival).2.isSome = true ↔
    Concerns handler.files arrival.view arrival.notice ∧ handler.isDue arrival.time = true := by
  rw [← isSome_relevant?_iff_concerns]
  cases hdue : handler.isDue arrival.time with
  | false => simp [handle_of_not_due hdue]
  | true =>
    cases hrelevant : handler.relevant? arrival.view arrival.notice with
    | none => simp [handle_of_relevant?_eq_none hrelevant]
    | some file => simp [handle_of_due hrelevant hdue]

/-- An event tells the file that its notice leads to. -/
theorem relevant?_of_handle (h : (handler.handle arrival).2 = some file) :
    handler.relevant? arrival.view arrival.notice = some file := by
  rw [handle] at h
  split at h
  · cases h
  · next found hfound =>
    rw [hfound]
    split at h
    · exact h
    · cases h

theorem eventAt?_length (before : List Arrival) (arrival : Arrival) (after : List Arrival) :
    handler.eventAt? (before ++ arrival :: after) before.length =
      ((handler.run before).1.handle arrival).2 := by
  rw [eventAt?, run_append, List.getElem?_append_right (Nat.le_of_eq (length_run before)),
    length_run, Nat.sub_self, run_cons, List.getElem?_cons_zero, Option.join_some]

/-- Later notices do not change the events for earlier ones. -/
theorem eventAt?_append {k : Nat} (hk : k < before.length) (after : List Arrival) :
    handler.eventAt? (before ++ after) k = handler.eventAt? before k := by
  rw [eventAt?, eventAt?, run_append, List.getElem?_append_left (by rwa [length_run])]

/-- The times of the events are those of the notices that they are sent for. -/
theorem mem_sentTimes_iff {time : Nat} : time ∈ handler.sentTimes arrivals ↔
    ∃ k arrival, arrivals[k]? = some arrival ∧ (handler.eventAt? arrivals k).isSome = true ∧
      arrival.time = time := by
  rw [sentTimes, List.mem_filterMap]
  constructor
  · rintro ⟨⟨arrival, event⟩, hmem, htime⟩
    obtain ⟨k, hk⟩ := List.mem_iff_getElem?.1 hmem
    obtain ⟨harrival, hevent⟩ := List.getElem?_zip_eq_some.1 hk
    obtain ⟨file, rfl, rfl⟩ := Option.map_eq_some_iff.1 htime
    exact ⟨k, arrival, harrival, by rw [eventAt?, hevent]; rfl, rfl⟩
  · rintro ⟨k, arrival, harrival, hevent, rfl⟩
    obtain ⟨file, hfile⟩ := Option.isSome_iff_exists.1 hevent
    have hanswer : (handler.run arrivals).2[k]? = some (some file) :=
      Option.join_eq_some_iff.1 hfile
    refine ⟨(arrival, some file), List.mem_iff_getElem?.2 ⟨k, ?_⟩, rfl⟩
    exact List.getElem?_zip_eq_some.2 ⟨harrival, hanswer⟩

theorem exists_append_of_getElem? {k : Nat} (h : arrivals[k]? = some arrival) :
    ∃ before after, arrivals = before ++ arrival :: after ∧ before.length = k := by
  obtain ⟨hk, rfl⟩ := List.getElem?_eq_some_iff.1 h
  refine ⟨arrivals.take k, arrivals.drop (k + 1), ?_, List.length_take_of_le (Nat.le_of_lt hk)⟩
  rw [← List.drop_eq_getElem_cons hk, List.take_append_drop]

/-- An event is sent for a notice just if it concerns a watched file and no event was sent less
than the delay before. -/
theorem isSome_eventAt?_iff {k : Nat} (hfresh : handler.lastSent = none) (horder : InOrder arrivals)
    (harrival : arrivals[k]? = some arrival) :
    (handler.eventAt? arrivals k).isSome = true ↔
      Concerns handler.files arrival.view arrival.notice ∧
        ∀ i earlier, i < k → arrivals[i]? = some earlier →
          (handler.eventAt? arrivals i).isSome = true →
            earlier.time + handler.delay ≤ arrival.time := by
  obtain ⟨before, after, rfl, rfl⟩ := exists_append_of_getElem? harrival
  have horder' : InOrder (before ++ [arrival]) :=
    horder.sublist (List.Sublist.append_left (List.singleton_sublist.2 List.mem_cons_self) before)
  -- The silence is known by the times of the events before, and these by their places.
  rw [eventAt?_length, isSome_handle_iff, files_run, isDue_run_iff hfresh horder']
  refine and_congr_right fun _ => ⟨fun hquiet i earlier hi hearlier hevent => ?_,
    fun hquiet time htime => ?_⟩
  · rw [eventAt?_append hi] at hevent
    rw [List.getElem?_append_left hi] at hearlier
    exact hquiet _ (mem_sentTimes_iff.2 ⟨i, earlier, hearlier, hevent, rfl⟩)
  · obtain ⟨i, earlier, hearlier, hevent, rfl⟩ := mem_sentTimes_iff.1 htime
    obtain ⟨hi, -⟩ := List.getElem?_eq_some_iff.1 hearlier
    refine hquiet i earlier hi ?_ ?_
    · rwa [List.getElem?_append_left hi]
    · rwa [eventAt?_append hi]

theorem sentTimes_concat (before : List Arrival) (last : Arrival) :
    handler.sentTimes (before ++ [last]) = handler.sentTimes before ++
      (((handler.run before).1.handle last).2.map fun _ => last.time).toList := by
  rw [sentTimes, run_append, List.zip_append (length_run before).symm, List.filterMap_append]
  refine congrArg _ ?_
  cases h : ((handler.run before).1.handle last).2 <;> simp [run, h]

/-- Any two events are at least the delay apart. -/
theorem pairwise_sentTimes (hfresh : handler.lastSent = none) (horder : InOrder arrivals) :
    (handler.sentTimes arrivals).Pairwise fun earlier later => earlier + handler.delay ≤ later := by
  induction arrivals using List.reverseRecOn with
  | nil => exact List.Pairwise.nil
  | append_singleton before last ih =>
    rw [sentTimes_concat]
    refine List.pairwise_append.2 ⟨ih (List.pairwise_append.1 horder).1, ?_, ?_⟩
    · cases ((handler.run before).1.handle last).2 <;> simp
    · intro sent hsent time htime
      obtain ⟨file, hevent, rfl⟩ := Option.map_eq_some_iff.1 (Option.mem_toList.1 htime)
      have hdue := (isSome_handle_iff.1 (Option.isSome_iff_exists.2 ⟨file, hevent⟩)).2
      exact (isDue_run_iff hfresh horder).1 hdue sent hsent

theorem map_fst_sent (arrivals : List Arrival) :
    (handler.sent arrivals).map Prod.fst = handler.sentTimes arrivals := by
  rw [sent, sentTimes, List.map_filterMap]
  simp only [Option.map_map]
  rfl

theorem sent_cons (arrival : Arrival) (rest : List Arrival) :
    handler.sent (arrival :: rest) =
      ((handler.handle arrival).2.map fun file => (arrival.time, file)).toList ++
        (handler.handle arrival).1.sent rest := by
  rw [sent, run_cons, List.zip_cons_cons, List.filterMap_cons]
  cases (handler.handle arrival).2 <;> rfl

/-- Only the notices about watched files count for the events. -/
theorem sent_filter (handler : Handler) (arrivals : List Arrival) :
    handler.sent (arrivals.filter fun arrival =>
      Concerns handler.files arrival.view arrival.notice) = handler.sent arrivals := by
  induction arrivals generalizing handler with
  | nil => rfl
  | cons arrival rest ih =>
    by_cases h : Concerns handler.files arrival.view arrival.notice
    · have hrest := ih (handler.handle arrival).1
      rw [files_handle] at hrest
      rw [List.filter_cons_of_pos (by simpa using h), sent_cons, sent_cons, hrest]
    · have hnone : handler.relevant? arrival.view arrival.notice = none := by
        rwa [← isSome_relevant?_iff_concerns, Option.not_isSome_iff_eq_none] at h
      rw [List.filter_cons_of_neg (by simpa using h), sent_cons, ih,
        handle_of_relevant?_eq_none hnone]
      rfl

/-- An event is sent for a notice exactly if something was created or modified, one of the changed
paths names a watched file, and no event was sent less than the delay before. The event tells the
one file that is named by the first path that names any. So two events are at least the delay
apart, and sequences with the same notices about watched files lead to the same events. -/
theorem event_sent_iff (hfresh : handler.lastSent = none) (hfiles : AreNormal handler.files)
    (horder : InOrder arrivals) :
    (∀ k arrival, arrivals[k]? = some arrival →
      ((handler.eventAt? arrivals k).isSome = true ↔
        Concerns handler.files arrival.view arrival.notice ∧
          ∀ i earlier, i < k → arrivals[i]? = some earlier →
            (handler.eventAt? arrivals i).isSome = true →
              earlier.time + handler.delay ≤ arrival.time) ∧
      ∀ file, handler.eventAt? arrivals k = some file →
        ∃ kind skipped changed rest,
          arrival.notice = .change kind (skipped ++ changed :: rest) ∧
          (∀ path ∈ skipped, ∀ other ∈ handler.files, ¬ Names arrival.view path other) ∧
          file ∈ handler.files ∧ Names arrival.view changed file ∧
          ∀ other ∈ handler.files, Names arrival.view changed other → other = file) ∧
      ((handler.sent arrivals).Pairwise fun earlier later =>
        earlier.1 + handler.delay ≤ later.1) ∧
      ∀ others : List Arrival,
        (others.filter fun arrival => Concerns handler.files arrival.view arrival.notice) =
          (arrivals.filter fun arrival => Concerns handler.files arrival.view arrival.notice) →
        handler.sent others = handler.sent arrivals := by
  refine ⟨fun k arrival harrival => ⟨isSome_eventAt?_iff hfresh horder harrival, ?_⟩, ?_, ?_⟩
  · intro file hfile
    obtain ⟨before, after, rfl, rfl⟩ := exists_append_of_getElem? harrival
    rw [eventAt?_length] at hfile
    have hrelevant := relevant?_of_handle hfile
    rw [relevant?_congr (files_run before)] at hrelevant
    obtain ⟨kind, skipped, changed, rest, hnotice, hskipped, hmem, hnames⟩ :=
      exists_first_of_relevant? hrelevant
    exact ⟨kind, skipped, changed, rest, hnotice, hskipped, hmem, hnames,
      fun other hother hother' => Names.unique hfiles hother hmem hother' hnames⟩
  · have hgaps := pairwise_sentTimes hfresh horder
    rw [← map_fst_sent] at hgaps
    exact List.pairwise_map.1 hgaps
  · intro others hothers
    rw [← sent_filter handler others, hothers, sent_filter]

/-- The first notice names another file before a watched one, whose directory it spells in a longer
way. A later one falls into the silence, and the last comes at its end. The trouble between them
could as well have stayed away. -/
theorem event_sent_in_longer_spelling :
    let view : View := ⟨fun _ => .error .notFound, fun _ => true,
      fun path => some (if path = ⟨"/d/./sub"⟩ then ⟨"/d/sub"⟩ else path)⟩
    let change (time : Nat) (paths : List Path) : Arrival := ⟨view, time, .change .modify paths⟩
    let first := change 0 [⟨"/d/other.yaml"⟩, ⟨"/d/./sub/main.yaml"⟩]
    let trouble : Arrival := ⟨view, 40, .trouble "overflow"⟩
    let second := change 99 [⟨"/d/main.yaml"⟩]
    let last := change 100 [⟨"/d/main.yaml"⟩]
    let handler : Handler := ⟨[⟨"/d/main.yaml"⟩, ⟨"/d/sub/main.yaml"⟩], 100, none⟩
    let arrivals := [first, trouble, second, last]
    handler.lastSent = none ∧ AreNormal handler.files ∧ InOrder arrivals ∧
      handler.eventAt? arrivals 0 = some ⟨"/d/sub/main.yaml"⟩ ∧
      handler.eventAt? arrivals 2 = none ∧ (handler.eventAt? arrivals 3).isSome = true ∧
      (∃ kind skipped changed rest, first.notice = .change kind (skipped ++ changed :: rest) ∧
        Names view changed ⟨"/d/sub/main.yaml"⟩) ∧
      handler.sent [first, second, last] = handler.sent arrivals := by
  intro view change first trouble second last handler arrivals
  have hfiles : AreNormal handler.files := by
    refine List.forall_mem_cons.2 ⟨⟨["d", "main.yaml"], by decide, by decide⟩, ?_⟩
    exact List.forall_mem_singleton.2 ⟨["d", "sub", "main.yaml"], by decide, by decide⟩
  have horder : InOrder arrivals := by
    simp [InOrder, arrivals, first, trouble, second, last, change]
  have hfirst : handler.eventAt? arrivals 0 = some ⟨"/d/sub/main.yaml"⟩ := by decide +kernel
  have htrouble : handler.eventAt? arrivals 1 = none := by decide +kernel
  have hsecond : handler.eventAt? arrivals 2 = none := by decide +kernel
  have hconcerns : Concerns handler.files last.view last.notice := by decide +kernel
  have hnot : ¬ Concerns handler.files trouble.view trouble.notice := by
    rintro ⟨kind, paths, h, -⟩
    cases h
  obtain ⟨hsent, -, hothers⟩ := event_sent_iff rfl hfiles horder
  refine ⟨rfl, hfiles, horder, hfirst, hsecond, ?_, ?_, hothers _ ?_⟩
  · refine (hsent 3 last rfl).1.2 ⟨hconcerns, fun i earlier hi hearlier hevent => ?_⟩
    obtain rfl | rfl | rfl : i = 0 ∨ i = 1 ∨ i = 2 := by omega
    · obtain rfl : first = earlier := Option.some.inj hearlier
      decide
    · rw [htrouble] at hevent
      cases hevent
    · rw [hsecond] at hevent
      cases hevent
  · obtain ⟨kind, skipped, changed, rest, hnotice, -, -, hnames, -⟩ :=
      (hsent 0 first rfl).2 _ hfirst
    exact ⟨kind, skipped, changed, rest, hnotice, hnames⟩
  · simp only [arrivals, List.filter_cons, hnot, decide_false, Bool.false_eq_true, if_false]

end Handler

end TilingConfig.Watch
