import TilingConfig.Proofs.Snapshot.Success
import TilingConfig.Watch.Session

/-!
# The silence after an event

A handler remembers the time of its last event and nothing else of what it has been told.
An event is sent for a notice about a watched file exactly if the last event is at least the
delay ago. A notice that falls into the silence is not made up for when the silence ends: if
no other one about a watched file follows, nothing tells of it.
-/

namespace TilingConfig.Watch

open TilingConfig.Files

namespace Handler

variable {handler : Handler} {arrivals before after : List Arrival}

/-! ## One notice -/

/-- What a notice is about depends on the watched files alone. -/
theorem relevant?_congr {other : Handler} (h : handler.files = other.files) (view : View)
    (notice : Notice) : handler.relevant? view notice = other.relevant? view notice := by
  have hwatched : handler.watched? view = other.watched? view := by
    funext changed
    simp only [watched?, h]
  cases notice with
  | trouble message => rfl
  | change kind paths => simp only [relevant?, hwatched]

theorem isDue_iff {now : Nat} : handler.isDue now = true ↔
    ∀ previous ∈ handler.lastSent, handler.delay ≤ now - previous := by
  rw [isDue]
  cases handler.lastSent with
  | none => simp
  | some previous => simp

theorem handle_of_relevant?_eq_none {arrival : Arrival}
    (h : handler.relevant? arrival.view arrival.notice = none) :
    handler.handle arrival = (handler, none) := by
  rw [handle, h]

theorem handle_of_due {arrival : Arrival} {file : Path}
    (h : handler.relevant? arrival.view arrival.notice = some file)
    (hdue : handler.isDue arrival.time = true) :
    handler.handle arrival = ({ handler with lastSent := some arrival.time }, some file) := by
  rw [handle, h]
  exact if_pos hdue

theorem handle_of_not_due {arrival : Arrival} (hdue : handler.isDue arrival.time = false) :
    handler.handle arrival = (handler, none) := by
  rw [handle]
  split
  · rfl
  · exact if_neg (Bool.eq_false_iff.1 hdue)

/-- A notice leaves the handler as it is and silent, or leads to an event and begins a silence. -/
theorem handle_cases (handler : Handler) (arrival : Arrival) :
    handler.handle arrival = (handler, none) ∨
      ∃ file, handler.handle arrival =
        ({ handler with lastSent := some arrival.time }, some file) := by
  cases hdue : handler.isDue arrival.time with
  | false => exact Or.inl (handle_of_not_due hdue)
  | true =>
    cases hrelevant : handler.relevant? arrival.view arrival.notice with
    | none => exact Or.inl (handle_of_relevant?_eq_none hrelevant)
    | some file => exact Or.inr ⟨file, handle_of_due hrelevant hdue⟩

@[simp] theorem files_handle (arrival : Arrival) :
    (handler.handle arrival).1.files = handler.files := by
  rcases handler.handle_cases arrival with h | ⟨file, h⟩ <;> rw [h]

@[simp] theorem delay_handle (arrival : Arrival) :
    (handler.handle arrival).1.delay = handler.delay := by
  rcases handler.handle_cases arrival with h | ⟨file, h⟩ <;> rw [h]

/-! ## A sequence of notices -/

theorem run_cons (arrival : Arrival) (rest : List Arrival) :
    handler.run (arrival :: rest) = (((handler.handle arrival).1.run rest).1,
      (handler.handle arrival).2 :: ((handler.handle arrival).1.run rest).2) := rfl

theorem run_append (before after : List Arrival) :
    handler.run (before ++ after) = (((handler.run before).1.run after).1,
      (handler.run before).2 ++ ((handler.run before).1.run after).2) := by
  induction before generalizing handler with
  | nil => rfl
  | cons arrival rest ih => rw [List.cons_append, run_cons, run_cons, ih, List.cons_append]

@[simp] theorem length_run (arrivals : List Arrival) :
    (handler.run arrivals).2.length = arrivals.length := by
  induction arrivals generalizing handler with
  | nil => rfl
  | cons arrival rest ih => rw [run_cons, List.length_cons, ih, List.length_cons]

@[simp] theorem files_run (arrivals : List Arrival) :
    (handler.run arrivals).1.files = handler.files := by
  induction arrivals generalizing handler with
  | nil => rfl
  | cons arrival rest ih => rw [run_cons, ih, files_handle]

@[simp] theorem delay_run (arrivals : List Arrival) :
    (handler.run arrivals).1.delay = handler.delay := by
  induction arrivals generalizing handler with
  | nil => rfl
  | cons arrival rest ih => rw [run_cons, ih, delay_handle]

/-- Notices about other things are not answered and change nothing. -/
theorem run_of_irrelevant
    (h : ∀ arrival ∈ arrivals, handler.relevant? arrival.view arrival.notice = none) :
    handler.run arrivals = (handler, List.replicate arrivals.length none) := by
  induction arrivals with
  | nil => rfl
  | cons arrival rest ih =>
    obtain ⟨harrival, hrest⟩ := List.forall_mem_cons.1 h
    rw [run_cons, handle_of_relevant?_eq_none harrival, ih hrest]
    rfl

/-- The times of the notices that are answered by an event. -/
def sentTimes (handler : Handler) (arrivals : List Arrival) : List Nat :=
  (arrivals.zip (handler.run arrivals).2).filterMap fun (arrival, event) =>
    event.map fun _ => arrival.time

theorem sentTimes_cons_of_silent {arrival : Arrival} (rest : List Arrival)
    (h : handler.handle arrival = (handler, none)) :
    handler.sentTimes (arrival :: rest) = handler.sentTimes rest := by
  rw [sentTimes, run_cons, h]
  rfl

theorem sentTimes_cons_of_sent {arrival : Arrival} {next : Handler} {file : Path}
    (rest : List Arrival) (h : handler.handle arrival = (next, some file)) :
    handler.sentTimes (arrival :: rest) = arrival.time :: next.sentTimes rest := by
  rw [sentTimes, run_cons, h]
  rfl

/-- Events keep the order of the notices. -/
theorem sentTimes_sublist (handler : Handler) (arrivals : List Arrival) :
    (handler.sentTimes arrivals).Sublist (arrivals.map Arrival.time) := by
  induction arrivals generalizing handler with
  | nil => exact List.Sublist.slnil
  | cons arrival rest ih =>
    rcases handler.handle_cases arrival with h | ⟨file, h⟩
    · rw [sentTimes_cons_of_silent rest h]
      exact (ih handler).cons arrival.time
    · rw [sentTimes_cons_of_sent rest h]
      exact (ih _).cons_cons arrival.time

/-- What is remembered is the time of the last event. -/
theorem lastSent_run (handler : Handler) (arrivals : List Arrival) :
    (handler.run arrivals).1.lastSent =
      (handler.sentTimes arrivals).getLast?.or handler.lastSent := by
  induction arrivals generalizing handler with
  | nil => rfl
  | cons arrival rest ih =>
    rw [run_cons]
    rcases handler.handle_cases arrival with h | ⟨file, h⟩
    · rw [sentTimes_cons_of_silent rest h, h, ih]
    · rw [sentTimes_cons_of_sent rest h, h, ih, List.getLast?_cons]
      cases (sentTimes _ rest).getLast? <;> rfl

/-- The notices come in the order of their times. -/
def InOrder (arrivals : List Arrival) : Prop :=
  arrivals.Pairwise fun earlier later => earlier.time ≤ later.time

theorem InOrder.sentTimes (h : InOrder arrivals) :
    (handler.sentTimes arrivals).Pairwise (· ≤ ·) :=
  (List.pairwise_map.2 h).sublist (handler.sentTimes_sublist arrivals)

/-- No event is sent later than the notice that comes next. -/
theorem le_of_mem_sentTimes {last : Arrival} (horder : InOrder (before ++ [last])) {sent : Nat}
    (hsent : sent ∈ handler.sentTimes before) : sent ≤ last.time := by
  obtain ⟨-, -, hlast⟩ := List.pairwise_append.1 horder
  obtain ⟨arrival, harrival, rfl⟩ :=
    List.mem_map.1 ((handler.sentTimes_sublist before).subset hsent)
  exact hlast arrival harrival last List.mem_cons_self

/-- The silence is over exactly if every event so far is at least the delay ago: the last one
is, and the others are before it. -/
theorem isDue_run_iff {last : Arrival} (hfresh : handler.lastSent = none)
    (horder : InOrder (before ++ [last])) :
    (handler.run before).1.isDue last.time = true ↔
      ∀ sent ∈ handler.sentTimes before, sent + handler.delay ≤ last.time := by
  have hpast : ∀ sent ∈ handler.sentTimes before, sent ≤ last.time :=
    fun sent hsent => le_of_mem_sentTimes horder hsent
  have hsorted : (handler.sentTimes before).Pairwise (· ≤ ·) :=
    InOrder.sentTimes (List.pairwise_append.1 horder).1
  rw [isDue_iff, lastSent_run, hfresh, Option.or_none, delay_run]
  rcases hsent : (handler.sentTimes before).getLast? with _ | latest
  · rw [List.getLast?_eq_none_iff.1 hsent]
    simp
  · obtain ⟨older, hsplit⟩ := List.getLast?_eq_some_iff.1 hsent
    rw [hsplit] at hpast hsorted ⊢
    have hlatest : latest ≤ last.time := hpast latest (by simp)
    have holder : ∀ sent ∈ older, sent ≤ latest := fun sent hsent =>
      (List.pairwise_append.1 hsorted).2.2 sent hsent latest List.mem_cons_self
    simp only [Option.mem_some_iff, forall_eq', List.mem_append, List.mem_singleton]
    constructor
    · rintro hdue sent (hsent | rfl)
      · have := holder sent hsent
        omega
      · omega
    · intro hdue
      have := hdue latest (Or.inr rfl)
      omega

/-- The answers from a notice on that is the last one about a watched file: at most it is
answered itself. -/
theorem drop_run_of_last {last : Arrival} {file : Path}
    (hlast : handler.relevant? last.view last.notice = some file)
    (hafter : ∀ arrival ∈ after, handler.relevant? arrival.view arrival.notice = none) :
    (handler.run (before ++ last :: after)).2.drop before.length =
      (if (handler.run before).1.isDue last.time then some file else none) ::
        List.replicate after.length none := by
  have hlast' : (handler.run before).1.relevant? last.view last.notice = some file := by
    rw [relevant?_congr (files_run before), hlast]
  have hafter' : (((handler.run before).1.handle last).1.run after).2 =
      List.replicate after.length none := by
    rw [run_of_irrelevant fun arrival harrival => ?_]
    rw [relevant?_congr ((files_handle last).trans (files_run before))]
    exact hafter arrival harrival
  rw [run_append, List.drop_left' (length_run before), run_cons, hafter']
  cases hdue : (handler.run before).1.isDue last.time with
  | true =>
    rw [handle_of_due hlast' hdue]
    rfl
  | false =>
    rw [handle_of_not_due hdue]
    rfl

/-- The last notice about a watched file is followed by an event exactly if it does not fall into
the silence after an earlier event. In any case the latest event up to it is less than the delay
before it, if it is not sent at the notice itself. -/
theorem last_change_answered_iff {last : Arrival} {file : Path} (hfresh : handler.lastSent = none)
    (horder : InOrder (before ++ last :: after))
    (hlast : handler.relevant? last.view last.notice = some file)
    (hafter : ∀ arrival ∈ after, handler.relevant? arrival.view arrival.notice = none) :
    let answers := (handler.run (before ++ last :: after)).2.drop before.length
    ((∃ path, some path ∈ answers) ↔
        ∀ sent ∈ handler.sentTimes before, sent + handler.delay ≤ last.time) ∧
      ((∀ path, some path ∉ answers) →
        ∃ sent ∈ handler.sentTimes before, sent ≤ last.time ∧
          last.time < sent + handler.delay) := by
  intro answers
  have horder' : InOrder (before ++ [last]) :=
    horder.sublist (List.Sublist.append_left (List.singleton_sublist.2 List.mem_cons_self) before)
  have hdue := isDue_run_iff hfresh horder'
  have hanswers : (∃ path, some path ∈ answers) ↔
      (handler.run before).1.isDue last.time = true := by
    rw [show answers = _ from drop_run_of_last hlast hafter]
    cases (handler.run before).1.isDue last.time <;> simp
  refine ⟨hanswers.trans hdue, fun hsilent => ?_⟩
  have hnot : ¬ ∀ sent ∈ handler.sentTimes before, sent + handler.delay ≤ last.time := by
    rw [← hdue, ← hanswers]
    exact fun ⟨path, hpath⟩ => hsilent path hpath
  obtain ⟨sent, hsent, hlate⟩ : ∃ sent ∈ handler.sentTimes before,
      last.time < sent + handler.delay := by
    simpa only [Classical.not_forall, Nat.not_le, exists_prop] using hnot
  exact ⟨sent, hsent, le_of_mem_sentTimes horder' hsent, hlate⟩

/-- The second of three changes falls into the silence after the first, and the third one, at
its end, is answered. What follows is about another file. -/
theorem last_change_answered_at_end_of_silence :
    let view : View := ⟨fun _ => .error .notFound, fun _ => true, some⟩
    let change (time : Nat) : Arrival := ⟨view, time, .change .modify [⟨"/d/main.yaml"⟩]⟩
    let handler : Handler := ⟨[⟨"/d/main.yaml"⟩], 100, none⟩
    let before := [change 0, change 50]
    let after : List Arrival := [⟨view, 120, .change .modify [⟨"/d/other.yaml"⟩]⟩]
    InOrder (before ++ change 100 :: after) ∧
      handler.relevant? (change 100).view (change 100).notice = some ⟨"/d/main.yaml"⟩ ∧
      (∀ arrival ∈ after, handler.relevant? arrival.view arrival.notice = none) ∧
      handler.sentTimes before = [0] ∧
      ∃ path, some path ∈ (handler.run (before ++ change 100 :: after)).2.drop before.length := by
  intro view change handler before after
  have horder : InOrder (before ++ change 100 :: after) := by
    simp [InOrder, before, after, change]
  have hlast : handler.relevant? (change 100).view (change 100).notice =
      some ⟨"/d/main.yaml"⟩ := by decide +kernel
  have hafter : ∀ arrival ∈ after, handler.relevant? arrival.view arrival.notice = none :=
    List.forall_mem_singleton.2 (by decide +kernel)
  have hsent : handler.sentTimes before = [0] := by decide +kernel
  refine ⟨horder, hlast, hafter, hsent, ?_⟩
  refine (last_change_answered_iff rfl horder hlast hafter).1.2 ?_
  rw [hsent]
  decide

open scoped Parsers

/-- The last of two changes falls into the silence after the first. Nothing tells of it, and a
session that loads again at each event keeps what the file held before. -/
theorem last_change_unanswered :
    let view (text : String) : View := ⟨fun _ => .ok text, fun _ => true, some⟩
    let path : Path := ⟨"/d/main.yaml"⟩
    let first : Arrival := ⟨view "tags: [b]\n", 0, .change .modify [path]⟩
    let last : Arrival := ⟨view "tags: [c]\n", 50, .change .modify [path]⟩
    let handler : Handler := ⟨[path], 100, none⟩
    let follow (session : Session) : Except WatchError Session :=
      [first, last].foldlM (fun session arrival => (session.take arrival).map Prod.fst) session
    handler.relevant? last.view last.notice = some path ∧
      (handler.run [first, last]).2 = [some path, none] ∧
        ∃ life session final current, Lifecycle.ofFile (view "tags: [a]\n") path = .ok life ∧
          Session.start (view "tags: [a]\n") path 100 life = .ok session ∧
          follow session = .ok final ∧ final.life.snapshot.tags = ["b"] ∧
          Lifecycle.ofFile last.view path = .ok current ∧ current.snapshot.tags = ["c"] := by
  intro view path first last handler follow
  have hlife : ((Lifecycle.ofFile (view "tags: [a]\n") path).toOption.bind fun life =>
      (Session.start (view "tags: [a]\n") path 100 life).toOption.bind fun session =>
        (follow session).toOption.map fun final => final.life.snapshot.tags) = some ["b"] := by
    decide +kernel
  have hcurrent : (Lifecycle.ofFile last.view path).toOption.map
      (fun life => life.snapshot.tags) = some ["c"] := by decide +kernel
  simp only [Option.bind_eq_some_iff, Option.map_eq_some_iff, toOption_eq_some_iff]
    at hlife hcurrent
  obtain ⟨life, hload, session, hstart, final, hfinal, htags⟩ := hlife
  obtain ⟨current, hreload, hnew⟩ := hcurrent
  exact ⟨by decide +kernel, by decide +kernel, life, session, final, current, hload, hstart,
    hfinal, htags, hreload, hnew⟩

end Handler

end TilingConfig.Watch
