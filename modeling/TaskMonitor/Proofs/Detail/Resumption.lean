import TaskMonitor.Proofs.Detail.Hearing
import TaskMonitor.Proofs.Detail.Rest
import TaskMonitor.Proofs.EventStream.Rendering
import TaskMonitor.Proofs.Stream.Subscription

/-! # Views across reconnects

However often the connection of a subscription is cut, the view becomes what it would have become
over one connection that is never cut. -/

namespace TaskMonitor

open EventStream (Frame IsRendering frames)

/-! ## The gateway -/

/-- A frame after which a connection can be resumed: it has an id that can be sent. -/
structure EventStream.Frame.IsResumable (f : Frame) : Prop where
  id : ∃ id, f.id = some id ∧ id.toList.all Request.isHeaderChar = true
  retry : ∀ ms, f.retry = some ms → ms < wordLimit

/-- How many of the frames a gateway may skip that is asked to resume. Of frames with one id it goes
by the first, and so sends too much rather than too little. -/
def resumePoint (fs : List Frame) : Option String → Nat
  | none => 0
  | some id => fs.findIdx (·.id = some id) + 1

/-- The gateway serves frames, from the one asked for or an earlier one on. It may break each
connection but the last after any byte. -/
inductive Served (fs : List Frame) : Subscription → List Attempt → Prop where
  | failed {s : Subscription} {rest : List Attempt} :
      Served fs (s.dial .failed).2 rest → Served fs s (.failed :: rest)
  | cut {s : Subscription} {n : Nat} {chunks : List (List UInt8)} {ending : Ending}
      {bytes : List UInt8} {rest : List Attempt} :
      n ≤ resumePoint fs s.lastEventId → IsRendering (fs.drop n) bytes →
      chunks.flatten <+: bytes → ending ≠ .held →
      Served fs (s.dial (.accepted chunks ending)).2 rest →
      Served fs s (.accepted chunks ending :: rest)
  | whole {s : Subscription} {n : Nat} {chunks : List (List UInt8)} {ending : Ending} :
      n ≤ resumePoint fs s.lastEventId → IsRendering (fs.drop n) chunks.flatten →
      Served fs s [.accepted chunks ending]

/-! ## The messages -/

def messages (fs : List Frame) : List Signal :=
  (fs.map Frame.received).filterMap Subscription.message?

theorem messages_append (fs gs : List Frame) :
    messages (fs ++ gs) = messages fs ++ messages gs := by
  simp [messages]

theorem messages_subset {fs gs : List Frame} (h : fs ⊆ gs) : messages fs ⊆ messages gs :=
  List.filterMap_subset _ (List.map_subset _ h)

/-- Frames that follow some of those that were heard add those only that were not. -/
theorem hearAll_messages (h : Hearing) (fs : List Frame) {n m : Nat} (hn : n ≤ m) (j : Nat) :
    (h.hearAll (messages (fs.take m))).hearAll (messages ((fs.drop n).take j)) =
      h.hearAll (messages (fs.take (max m (n + j)))) := by
  rw [List.take_drop]
  rcases Nat.le_total (n + j) m with hj | hj
  · rw [Nat.max_eq_left hj]
    apply Hearing.hearAll_again
    have hsub : (fs.take (n + j)).drop n ⊆ fs.take m := fun f hf =>
      (List.take_prefix_take_left hj).subset (List.drop_subset n _ hf)
    exact fun s hs => messages_subset hsub hs
  · rw [Nat.max_eq_right hj, ← Nat.min_eq_left hj, ← List.take_take]
    generalize fs.take (n + j) = gs
    -- What was heard comes first, and after it what was not.
    have hsplit : gs.drop n = (gs.take m).drop n ++ gs.drop m := by
      rw [List.drop_take]
      calc gs.drop n = (gs.drop n).take (m - n) ++ (gs.drop n).drop (m - n) :=
            (List.take_append_drop _ _).symm
        _ = (gs.drop n).take (m - n) ++ gs.drop m := by
            rw [List.drop_drop, Nat.add_sub_cancel' hn]
    rw [hsplit, messages_append, Hearing.hearAll_append,
      Hearing.hearAll_again h (messages_subset (List.drop_subset n _)), ← Hearing.hearAll_append,
      ← messages_append, List.take_append_drop]

/-! ## One connection -/

theorem isReadable_of_isResumable {f : Frame} (h : f.IsResumable) : f.IsReadable where
  id := by
    obtain ⟨id, hid, hlegal⟩ := h.id
    intro id' hid' hnull
    obtain rfl : id = id' := by simpa [hid] using hid'
    exact absurd (List.all_eq_true.mp hlegal _ hnull) (by decide)
  retry := h.retry

theorem empty_notMem {fs : List Frame} (hfs : ∀ f ∈ fs, f.IsResumable) : Frame.empty ∉ fs := by
  intro hmem
  obtain ⟨id, hid, -⟩ := (hfs _ hmem).id
  simp [Frame.empty] at hid

theorem frames_of_cut {fs : List Frame} (hfs : ∀ f ∈ fs, f.IsResumable) {n : Nat}
    {bytes sent : List UInt8} (hsent : IsRendering (fs.drop n) sent) (hcut : bytes <+: sent) :
    ∃ j, n + j ≤ max n fs.length ∧ frames bytes = ((fs.drop n).take j).map Frame.received := by
  have hdrop : ∀ f ∈ fs.drop n, f.IsResumable := fun f hf => hfs f (List.mem_of_mem_drop hf)
  have hframes := EventStream.frames_of_isRendering hsent
    (fun f hf => isReadable_of_isResumable (hdrop f hf)) (empty_notMem hdrop)
  have hprefix := EventStream.frames_prefix hcut
  rw [hframes] at hprefix
  refine ⟨(frames bytes).length, ?_, ?_⟩
  · have hlength := hprefix.length_le
    simp only [List.length_map, List.length_drop] at hlength
    omega
  · rw [List.map_take]
    exact List.prefix_iff_eq_take.mp hprefix

theorem signals_whole {s : Subscription} (hpending : s.pending = []) (hask : s.mayAsk = true)
    {fs : List Frame} (hfs : ∀ f ∈ fs, f.IsResumable) {chunks : List (List UInt8)}
    (ending : Ending) (hwhole : IsRendering fs chunks.flatten) :
    (s.dial (.accepted chunks ending)).1 = .opened :: messages fs ++ ending.signals := by
  rw [Subscription.dial_accepted hpending hask, EventStream.frames_of_isRendering hwhole
    (fun f hf => isReadable_of_isResumable (hfs f hf)) (empty_notMem hfs)]
  rfl

/-- The subscription waits to connect, and resumes from a point that was reached. -/
structure Ready (fs : List Frame) (m : Nat) (s : Subscription) : Prop where
  pending : s.pending = []
  waits : s.delay?.isSome = true
  asks : s.mayAsk = true
  resumes : resumePoint fs s.lastEventId ≤ m
  known : m ≤ fs.length

theorem ready_start (fs : List Frame) (url : String) (retry : Nat) :
    Ready fs 0 (.start url retry) :=
  ⟨rfl, rfl, rfl, Nat.le_refl 0, Nat.zero_le _⟩

theorem resumePoint_getElem_le (fs : List Frame) {i : Nat} (hi : i < fs.length) :
    resumePoint fs fs[i].id ≤ i + 1 := by
  cases hid : fs[i].id with
  | none => simp [resumePoint]
  | some id =>
      by_contra hlate
      have hlt : i < fs.findIdx (·.id = some id) := by simpa [resumePoint] using hlate
      have hnot := List.not_of_lt_findIdx hlt
      simp [hid] at hnot

theorem lastId_cases {fs : List Frame} (hfs : ∀ f ∈ fs, f.IsResumable) (n j : Nat)
    (before : Option String) :
    Subscription.lastId (((fs.drop n).take j).map Frame.received) before = before ∨
      ∃ i, ∃ hi : i < fs.length, i < n + j ∧
        Subscription.lastId (((fs.drop n).take j).map Frame.received) before = fs[i].id := by
  rcases List.eq_nil_or_concat ((fs.drop n).take j) with hnone | ⟨init, f, hlast⟩
  · exact .inl (by simp [hnone, Subscription.lastId])
  · have hlength := congrArg List.length hlast
    simp only [List.length_take, List.length_drop, List.length_concat] at hlength
    have hi : n + init.length < fs.length := by omega
    have hf : fs[n + init.length] = f := by
      have hget := List.getElem_of_eq hlast (i := init.length) (by simp; omega)
      simpa using hget
    obtain ⟨id, hid, -⟩ := (hfs fs[n + init.length] (List.getElem_mem hi)).id
    refine .inr ⟨n + init.length, hi, by omega, ?_⟩
    rw [hlast, hid]
    rw [hf] at hid
    simp [Subscription.lastId, hid]

/-- How a connection begins and ends is not heard. -/
theorem hearAll_connection (h : Hearing) (xs : List Signal) (ending : Ending) :
    h.hearAll (.opened :: xs ++ ending.signals) = h.hearAll xs := by
  rw [Hearing.hearAll_append]
  have hopened : h.hearAll (.opened :: xs) = h.hearAll xs := by
    rw [Hearing.hearAll, List.foldl_cons, Hearing.hear_of_isDeaf (Hearing.isDeaf_opened h)]
    rfl
  rw [hopened]
  apply Hearing.hearAll_of_isDeaf
  intro s hs
  cases ending with
  | held => simp [Ending.signals] at hs
  | complete =>
      obtain rfl : s = .interrupted := by simpa [Ending.signals] using hs
      exact Hearing.isDeaf_interrupted _
  | broken =>
      obtain rfl : s = .interrupted := by simpa [Ending.signals] using hs
      exact Hearing.isDeaf_interrupted _

theorem hearAll_dial {fs : List Frame} {m n : Nat} {s : Subscription} (hs : Ready fs m s)
    (hn : n ≤ resumePoint fs s.lastEventId) {chunks : List (List UInt8)} (ending : Ending) {j : Nat}
    (hframes : frames chunks.flatten = ((fs.drop n).take j).map Frame.received) (h : Hearing) :
    (h.hearAll (messages (fs.take m))).hearAll (s.dial (.accepted chunks ending)).1 =
      h.hearAll (messages (fs.take (max m (n + j)))) := by
  rw [Subscription.dial_accepted hs.pending hs.asks, hearAll_connection, hframes]
  exact hearAll_messages h fs (Nat.le_trans hn hs.resumes) j

theorem ready_dial {fs : List Frame} (hfs : ∀ f ∈ fs, f.IsResumable) {m n : Nat}
    {s : Subscription} (hs : Ready fs m s) {chunks : List (List UInt8)} {ending : Ending} {j : Nat}
    (hframes : frames chunks.flatten = ((fs.drop n).take j).map Frame.received)
    (hj : n + j ≤ max n fs.length) (hn : n ≤ m) (hending : ending ≠ .held) :
    Ready fs (max m (n + j)) (s.dial (.accepted chunks ending)).2 := by
  have hknown := hs.known
  have hlast : (s.dial (.accepted chunks ending)).2.lastEventId =
      Subscription.lastId (((fs.drop n).take j).map Frame.received) s.lastEventId := by
    rw [Subscription.dial_accepted hs.pending hs.asks, hframes]
    exact Subscription.after_lastEventId s _
  have hpending : (s.dial (.accepted chunks ending)).2.pending = [] := by
    rw [Subscription.dial_accepted hs.pending hs.asks]
    rfl
  have hwaits : (s.dial (.accepted chunks ending)).2.delay?.isSome = true := by
    rw [Subscription.dial_accepted hs.pending hs.asks]
    simp [Subscription.delay?, Subscription.after, hending]
  rcases lastId_cases hfs n j s.lastEventId with hsame | ⟨i, hi, hij, hid⟩
  · rw [hsame] at hlast
    refine ⟨hpending, hwaits, ?_, ?_, by omega⟩
    · rw [Subscription.mayAsk, hlast]
      exact hs.asks
    · rw [hlast]
      exact Nat.le_trans hs.resumes (Nat.le_max_left _ _)
  · rw [hid] at hlast
    refine ⟨hpending, hwaits, ?_, ?_, by omega⟩
    · obtain ⟨id, hsome, hlegal⟩ := (hfs fs[i] (List.getElem_mem hi)).id
      simp [Subscription.mayAsk, hlast, hsome, hlegal]
    · rw [hlast]
      exact Nat.le_trans (resumePoint_getElem_le fs hi) (by omega)

theorem ready_interrupt {fs : List Frame} {m : Nat} {s : Subscription} (hs : Ready fs m s) :
    Ready fs m s.interrupt where
  pending := hs.pending
  waits := by simp [Subscription.delay?, Subscription.interrupt, hs.pending]
  asks := hs.asks
  resumes := hs.resumes
  known := hs.known

/-! ## All connections -/

theorem run_cons {s : Subscription} (h : s.delay?.isSome = true) (a : Attempt)
    (rest : List Attempt) :
    (s.run (a :: rest)).1 = (s.dial a).1 ++ ((s.dial a).2.run rest).1 := by
  simp [Subscription.run, h]

/-- Over all connections of a gateway that serves the frames, each of them is heard. The induction
is on the connections; the frames up to some point have been heard, and the next connection resumes
there or before. -/
theorem hearAll_served {fs : List Frame} (hfs : ∀ f ∈ fs, f.IsResumable) {s : Subscription}
    {attempts : List Attempt} (hserved : Served fs s attempts) {m : Nat} (hs : Ready fs m s)
    (h : Hearing) :
    (h.hearAll (messages (fs.take m))).hearAll (s.run attempts).1 = h.hearAll (messages fs) := by
  induction hserved generalizing m with
  | @failed s rest hrest ih =>
      rw [run_cons hs.waits, Hearing.hearAll_append]
      rw [Subscription.dial_failed hs.pending] at ih ⊢
      have hdeaf := Hearing.hear_of_isDeaf (Hearing.isDeaf_interrupted
        (h.hearAll (messages (fs.take m))))
      have hinterrupted : (h.hearAll (messages (fs.take m))).hearAll [.interrupted] =
          h.hearAll (messages (fs.take m)) := hdeaf
      rw [hinterrupted]
      exact ih (ready_interrupt hs)
  | @cut s n chunks ending bytes rest hn hsent hcut hending hrest ih =>
      obtain ⟨j, hj, hframes⟩ := frames_of_cut hfs hsent hcut
      rw [run_cons hs.waits, Hearing.hearAll_append, hearAll_dial hs hn ending hframes]
      exact ih (ready_dial hfs hs hframes hj (Nat.le_trans hn hs.resumes) hending)
  | @whole s n chunks ending hn hsent =>
      have hdrop : ∀ f ∈ fs.drop n, f.IsResumable := fun f hf => hfs f (List.mem_of_mem_drop hf)
      have hframes : frames chunks.flatten =
          ((fs.drop n).take (fs.length - n)).map Frame.received := by
        rw [EventStream.frames_of_isRendering hsent
          (fun f hf => isReadable_of_isResumable (hdrop f hf)) (empty_notMem hdrop),
          List.take_of_length_le (by simp)]
      rw [run_cons hs.waits, Hearing.hearAll_append, hearAll_dial hs hn ending hframes,
        List.take_of_length_le (by omega)]
      rfl

/-- A view that loaded a task that runs hears what its stream brings. -/
theorem DetailBinder.timeline?_loaded (id : TaskId) (token : MountToken) (baseUrl : String)
    {snapshot : TaskSnapshot} (hrun : snapshot.task.isTerminal = false) (signals : List Signal) :
    ((((mount id token baseUrl).applySnapshot token (.ok snapshot)).1).receiveAll
      signals).timeline? =
        some ((Hearing.start (.ofSnapshot snapshot)).hearAll signals).timeline := by
  have hloaded : ((mount id token baseUrl).applySnapshot token (.ok snapshot)).1 =
      following id token baseUrl (.ofSnapshot snapshot) .connecting 1 :=
    congrArg (·.1) (applySnapshot_mount hrun)
  rw [hloaded]
  exact timeline?_receiveAll signals hrun (by simp)

theorem DetailBinder.events_view {b : DetailBinder} {t : Timeline} (h : b.timeline? = some t) :
    b.view.events = t.events := by
  simp [view, h]

/-- A view whose subscription is cut any number of times ends with the events, the task and the
artifacts that it would have after one connection that sends all frames: each is there once and in
its place. -/
theorem resumed_view_eq {fs : List Frame} (hfs : ∀ f ∈ fs, f.IsResumable) (url : String)
    (retry : Nat) {attempts : List Attempt} (hserved : Served fs (.start url retry) attempts)
    {chunks : List (List UInt8)} (ending : Ending) (hwhole : IsRendering fs chunks.flatten)
    {snapshot : TaskSnapshot} (hrun : snapshot.task.isTerminal = false) (id : TaskId)
    (token : MountToken) (baseUrl : String) :
    let loaded := ((DetailBinder.mount id token baseUrl).applySnapshot token (.ok snapshot)).1
    let uncut := ((Subscription.start url retry).run [.accepted chunks ending]).1
    let resumed := loaded.receiveAll ((Subscription.start url retry).run attempts).1
    uncut = .opened :: messages fs ++ ending.signals ∧
      resumed.view.events = (loaded.receiveAll uncut).view.events ∧
      resumed.view.task = (loaded.receiveAll uncut).view.task ∧
      resumed.view.artifacts = (loaded.receiveAll uncut).view.artifacts := by
  intro loaded uncut resumed
  have huncut : uncut = .opened :: messages fs ++ ending.signals := by
    have hdial : uncut = ((Subscription.start url retry).dial (.accepted chunks ending)).1 ++ [] :=
      run_cons (ready_start fs url retry).waits (.accepted chunks ending) []
    rw [hdial, List.append_nil, signals_whole rfl rfl hfs ending hwhole]
  have hheard (signals : List Signal) : (loaded.receiveAll signals).timeline? =
      some ((Hearing.start (.ofSnapshot snapshot)).hearAll signals).timeline :=
    DetailBinder.timeline?_loaded id token baseUrl hrun signals
  have htimeline : resumed.timeline? = (loaded.receiveAll uncut).timeline? := by
    have hserves := hearAll_served hfs hserved (ready_start fs url retry)
      (Hearing.start (.ofSnapshot snapshot))
    rw [hheard, hheard, huncut, hearAll_connection, ← hserves]
    rfl
  refine ⟨huncut, ?_, ?_, ?_⟩
  · simp only [DetailBinder.view, htimeline]
  · simp only [DetailBinder.view, htimeline]
  · simp only [DetailBinder.view, htimeline]

/-! ### A message that comes twice -/

def messageText (id : String) : String :=
  "\x7b\"event_id\":\"" ++ id ++ "\",\"task_seq\":1,\"ts\":\"2026-03-01T10:00:03Z\",\n" ++
    "\"type\":\"USER_MESSAGE\",\"actor\":\"u\",\"task_id\":\"t1\"\x7d"

def twoMessages : List Frame :=
  [⟨some "USER_MESSAGE", messageText "e1", some "e1", none⟩,
    ⟨none, messageText "e2", some "e2", some 20⟩]

/-- The first connection breaks within the second message, the next one cannot be made, and the
third sends all again. -/
def threeAttempts : List Attempt :=
  [.accepted [(EventStream.render twoMessages).take 200] .broken, .failed,
    .accepted [EventStream.render twoMessages] .complete]

theorem isRendering_twoMessages : IsRendering twoMessages (EventStream.render twoMessages) := by
  apply EventStream.isRendering_render
  · refine List.forall_mem_cons.mpr ⟨fun e he => ?_, List.forall_mem_singleton.mpr (by simp)⟩
    obtain rfl : "USER_MESSAGE" = e := by simpa using he
    decide
  · refine List.forall_mem_cons.mpr ⟨fun id hid => ?_,
      List.forall_mem_singleton.mpr fun id hid => ?_⟩
    · obtain rfl : "e1" = id := by simpa using hid
      decide
    · obtain rfl : "e2" = id := by simpa using hid
      decide

theorem served_twoMessages (s : Subscription) : Served twoMessages s threeAttempts := by
  have hwhole : IsRendering (twoMessages.drop 0) [EventStream.render twoMessages].flatten := by
    simpa using isRendering_twoMessages
  refine .cut (Nat.zero_le _) isRendering_twoMessages ?_ (by decide)
    (.failed (.whole (Nat.zero_le _) hwhole))
  simpa using List.take_prefix 200 (EventStream.render twoMessages)

theorem isResumable_twoMessages : ∀ f ∈ twoMessages, f.IsResumable := by
  refine List.forall_mem_cons.mpr ⟨?_, List.forall_mem_singleton.mpr ?_⟩
  · exact ⟨⟨"e1", rfl, by decide⟩, by simp⟩
  · exact ⟨⟨"e2", rfl, by decide⟩, by simp [wordLimit]⟩

theorem messages_twoMessages : messages twoMessages =
    [.message "USER_MESSAGE" (messageText "e1"), .message "message" (messageText "e2")] := by
  decide +kernel

theorem signals_threeAttempts : ((Subscription.start "http://gw" 3000).run threeAttempts).1 =
    [.opened, .message "USER_MESSAGE" (messageText "e1"), .interrupted, .interrupted, .opened,
      .message "USER_MESSAGE" (messageText "e1"), .message "message" (messageText "e2"),
      .interrupted] := by
  let cut : Subscription := ⟨"http://gw", 3000, some "e1", .waiting 3000, []⟩
  have hcut : (Subscription.start "http://gw" 3000).dial
      (.accepted [(EventStream.render twoMessages).take 200] .broken) =
        ([.opened, .message "USER_MESSAGE" (messageText "e1"), .interrupted], cut) := by
    rw [Subscription.dial_accepted rfl rfl]
    decide +kernel
  have hfailed : cut.dial .failed = ([.interrupted], cut) := Subscription.dial_failed rfl
  have hwhole : (cut.dial (.accepted [EventStream.render twoMessages] .complete)).1 =
      .opened :: messages twoMessages ++ [.interrupted] :=
    signals_whole rfl (by decide) isResumable_twoMessages .complete
      (by simpa using isRendering_twoMessages)
  rw [threeAttempts, run_cons rfl, hcut, run_cons rfl, hfailed, run_cons rfl, hwhole,
    messages_twoMessages]
  rfl

theorem events_twoMessages :
    let t := Timeline.ofSnapshot (DetailSession.runningSnapshot ⟨"t1"⟩)
    ((Hearing.start t).hearAll (messages twoMessages)).timeline.events.map (·.id) =
      [⟨"e1"⟩, ⟨"e2"⟩] := by
  intro t
  have hread : [Signal.message "USER_MESSAGE" (messageText "e1"),
      .message "message" (messageText "e2")].map (fun s => s.envelope?.map fun e =>
        (e.event.id, e.taskId, e.target, e.final)) =
          [some (⟨"e1"⟩, ⟨"t1"⟩, none, false), some (⟨"e2"⟩, ⟨"t1"⟩, none, false)] := by
    decide +kernel
  rw [messages_twoMessages]
  simp only [List.map_cons, List.map_nil, List.cons.injEq, and_true, Option.map_eq_some_iff,
    Prod.mk.injEq] at hread
  obtain ⟨⟨e, he, hid, htask, htarget, hfinal⟩, ⟨e', he', hid', htask', htarget', hfinal'⟩⟩ := hread
  have hopen (t : Timeline) : ¬ Signal.Stops (.message "USER_MESSAGE" (messageText "e1")) t := by
    simp [Signal.Stops, Signal.closesStream, Signal.EndsTask, Timeline.EndedBy, he, htarget, hfinal]
  have hopen' (t : Timeline) : ¬ Signal.Stops (.message "message" (messageText "e2")) t := by
    simp [Signal.Stops, Signal.closesStream, Signal.EndsTask, Timeline.EndedBy, he', htarget',
      hfinal']
  have hheard : ((Hearing.start t).hearAll [.message "USER_MESSAGE" (messageText "e1"),
      .message "message" (messageText "e2")]).timeline = ((t.apply e).1.apply e').1 := by
    simp [Hearing.hearAll, Hearing.start, Hearing.hear, Timeline.hear, he, he', hopen]
  rw [hheard]
  simp [Timeline.apply, merge, htask, htask', hid, hid', htarget, htarget', t,
    Timeline.ofSnapshot, Timeline.firsts, DetailSession.runningSnapshot]

/-- The first message comes twice, and its event is there once. -/
theorem twoMessages_resumed :
    (∀ f ∈ twoMessages, f.IsResumable) ∧
      Served twoMessages (.start "http://gw" 3000) threeAttempts ∧
      IsRendering twoMessages [EventStream.render twoMessages].flatten ∧
      (DetailSession.runningSnapshot ⟨"t1"⟩).task.isTerminal = false ∧
      ((Subscription.start "http://gw" 3000).run threeAttempts).1.count
          (.message "USER_MESSAGE" (messageText "e1")) = 2 ∧
      (let loaded := ((DetailBinder.mount ⟨"t1"⟩ ⟨0⟩ "http://gw").applySnapshot ⟨0⟩
          (.ok (DetailSession.runningSnapshot ⟨"t1"⟩))).1
       let resumed := loaded.receiveAll ((Subscription.start "http://gw" 3000).run threeAttempts).1
       resumed.view.events.map (·.id) = [⟨"e1"⟩, ⟨"e2"⟩]) := by
  have hserved := served_twoMessages (.start "http://gw" 3000)
  have hwhole : IsRendering twoMessages [EventStream.render twoMessages].flatten := by
    simpa using isRendering_twoMessages
  have hrun : (DetailSession.runningSnapshot ⟨"t1"⟩).task.isTerminal = false := rfl
  refine ⟨isResumable_twoMessages, hserved, hwhole, hrun, ?_, ?_⟩
  · rw [signals_threeAttempts]
    decide
  · intro loaded resumed
    obtain ⟨huncut, hevents, -⟩ := resumed_view_eq isResumable_twoMessages "http://gw" 3000 hserved
      .complete hwhole hrun ⟨"t1"⟩ ⟨0⟩ "http://gw"
    have hheard := DetailBinder.timeline?_loaded ⟨"t1"⟩ ⟨0⟩ "http://gw" hrun
      ((Subscription.start "http://gw" 3000).run
        [.accepted [EventStream.render twoMessages] .complete]).1
    rw [hevents, DetailBinder.events_view hheard, huncut, hearAll_connection]
    exact events_twoMessages

end TaskMonitor
