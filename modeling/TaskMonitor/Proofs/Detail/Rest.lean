import TaskMonitor.Detail.Session
import TaskMonitor.Proofs.Detail.Following

/-! # What a detail view has become when it would have to wait

The view is the snapshot's timeline with the envelopes up to the first stop in it. -/

namespace TaskMonitor

/-! ## Up to the first stop -/

namespace Timeline

/-- The signals up to the first one that stops the stream, and that one. -/
def heard (t : Timeline) : List Signal → List Signal
  | [] => []
  | s :: rest => if s.Stops t then [s] else s :: (t.hear s).heard rest

def stop? (t : Timeline) : List Signal → Option Signal
  | [] => none
  | s :: rest => if s.Stops t then some s else (t.hear s).stop? rest

def hearAll (t : Timeline) (signals : List Signal) : Timeline :=
  t.applyAll (signals.filterMap Signal.envelope?)

@[simp] theorem hearAll_nil (t : Timeline) : t.hearAll [] = t := rfl

@[simp] theorem hearAll_cons (t : Timeline) (s : Signal) (signals : List Signal) :
    t.hearAll (s :: signals) = (t.hear s).hearAll signals := by
  simp only [hearAll, hear, List.filterMap_cons]
  cases s.envelope? <;> rfl

end Timeline

namespace Feed

/-- The feed stops the stream of a view: by a signal, or because it ends. -/
def Stops (f : Feed) (t : Timeline) : Prop := (t.stop? f.signals).isSome ∨ f.ends = true

instance (f : Feed) (t : Timeline) : Decidable (f.Stops t) :=
  inferInstanceAs (Decidable (_ ∨ _))

def answers (f : Feed) (t : Timeline) : Nat :=
  (t.heard f.signals).length + if t.stop? f.signals = none ∧ f.ends = true then 1 else 0

def restStatus (f : Feed) (t : Timeline) (status : StreamStatus) : StreamStatus :=
  match t.stop? f.signals with
  | some s => s.stopStatus
  | none => if f.ends then .closed else f.signals.foldl Signal.statusAfter status

end Feed

/-! ## Runs -/

namespace DetailSession

/-- A view asks its subscription until it would have to wait. The number counts the answers. -/
inductive RunsToRest (i : Nat) : DetailSession → Nat → DetailSession → Prop where
  | rest {s : DetailSession} {v : MountedView} :
      s.view? i = some v → s.next i v = (s, false) → RunsToRest i s 0 s
  | next {s s' rested : DetailSession} {v : MountedView} {answers : Nat} :
      s.view? i = some v → s.next i v = (s', true) → RunsToRest i s' answers rested →
      RunsToRest i s (answers + 1) rested

theorem RunsToRest.unique {i : Nat} {s rested rested' : DetailSession} {n n' : Nat}
    (h : RunsToRest i s n rested) (h' : RunsToRest i s n' rested') :
    n = n' ∧ rested = rested' := by
  induction h generalizing n' with
  | rest hv hnext =>
      cases h' with
      | rest => exact ⟨rfl, rfl⟩
      | next hv' hnext' =>
          obtain rfl := Option.some.inj (hv.symm.trans hv')
          simp [hnext] at hnext'
  | next hv hnext _ ih =>
      cases h' with
      | rest hv' hnext' =>
          obtain rfl := Option.some.inj (hv.symm.trans hv')
          simp [hnext] at hnext'
      | next hv' hnext' h' =>
          obtain rfl := Option.some.inj (hv.symm.trans hv')
          obtain rfl := (Prod.mk.inj (hnext.symm.trans hnext')).1
          obtain ⟨hn, hrested⟩ := ih h'
          exact ⟨congrArg (· + 1) hn, hrested⟩

/-- How a view rests whose feed has been followed from a timeline on: what it shows, and what
became of the channel. -/
structure AtRest (id : TaskId) (t : Timeline) (status : StreamStatus) (f : Feed)
    (before : ScriptedChannel) (v : MountedView) (after : ScriptedChannel) : Prop where
  view : v.binder.view =
    DetailBinder.loadedView id (t.hearAll (t.heard f.signals)) (f.restStatus t status)
  opened : after.opened = before.opened
  stopped : f.Stops t → v.feed = none ∧ after.closed = before.closed + 1 ∧
    ∀ answer, v.binder.receive answer = (v.binder, [])
  waiting : ¬ f.Stops t → v.feed = some .silent ∧ after.closed = before.closed

variable {s : DetailSession} {i : Nat} {v w : MountedView}

theorem lt_length_of_view? (h : s.view? i = some v) : i < s.views.length := by
  by_contra hge
  simp [view?, List.getElem?_eq_none (Nat.le_of_not_lt hge)] at h

theorem view?_put_nil (h : s.view? i = some v) : (s.put i w []).view? i = some w := by
  simp [put, view?, ScriptedChannel.serveAll, lt_length_of_view? h]

theorem view?_put_close (h : s.view? i = some v) :
    (s.put i w [.close]).view? i = some { w with feed := none } := by
  simp [put, view?, ScriptedChannel.serveAll, ScriptedChannel.serve, lt_length_of_view? h]

@[simp] theorem channel_put_nil : (s.put i w []).channel = s.channel := rfl

theorem closed_put_close {b : DetailBinder} {f : Feed} :
    (s.put i ⟨b, some f⟩ [.close]).channel.closed = s.channel.closed + 1 := rfl

theorem runsToRest_without_feed {b : DetailBinder} (h : s.view? i = some ⟨b, none⟩) :
    RunsToRest i s 0 s :=
  .rest h rfl

theorem next_signal (b : DetailBinder) (x : Signal) (signals : List Signal) (ends : Bool) :
    s.next i ⟨b, some ⟨x :: signals, ends⟩⟩ =
      (s.put i ⟨(b.receive (some x)).1, some ⟨signals, ends⟩⟩ (b.receive (some x)).2, true) := rfl

theorem next_end (b : DetailBinder) :
    s.next i ⟨b, some ⟨[], true⟩⟩ =
      (s.put i ⟨(b.receive none).1, some ⟨[], true⟩⟩ (b.receive none).2, true) := rfl

variable {id : TaskId} {token : MountToken} {baseUrl : String} {t : Timeline}
  {status : StreamStatus} {changes : Nat}

open DetailBinder

/-- A view that follows its task comes to rest, at the first stop or when its feed is used up. The
induction is on the signals; the view goes on following until one of them stops it. -/
theorem follow_to_rest (signals : List Signal) (ends : Bool) (hrun : t.isTerminal = false)
    (hstatus : status ≠ .closed)
    (hv : s.view? i = some ⟨following id token baseUrl t status changes, some ⟨signals, ends⟩⟩) :
    ∃ rested v, RunsToRest i s (Feed.answers ⟨signals, ends⟩ t) rested ∧
      rested.view? i = some v ∧ AtRest id t status ⟨signals, ends⟩ s.channel v rested.channel := by
  induction signals generalizing s t status changes with
  | nil =>
      cases ends with
      | false =>
          refine ⟨s, _, .rest hv rfl, hv, ?_, rfl, ?_, ?_⟩
          · exact view_following
          · simp [Feed.Stops, Timeline.stop?]
          · exact fun _ => ⟨rfl, rfl⟩
      | true =>
          obtain ⟨changes', wanted, hend⟩ := receive_end id token baseUrl status changes (t := t)
          have hnext := next_end (s := s) (i := i)
            (following id token baseUrl t status changes)
          rw [hend] at hnext
          have hv' := view?_put_close (w := ⟨stopped id token baseUrl t .closed changes' wanted,
            some ⟨[], true⟩⟩) hv
          refine ⟨_, _, .next hv hnext (runsToRest_without_feed hv'), hv', ?_, rfl, ?_, ?_⟩
          · exact view_stopped
          · exact fun _ => ⟨rfl, closed_put_close, receive_stopped⟩
          · simp [Feed.Stops]
  | cons x rest ih =>
      have hnext := next_signal (s := s) (i := i)
        (following id token baseUrl t status changes) x rest ends
      by_cases hx : x.Stops t
      · obtain ⟨changes', wanted, hreceive⟩ := receive_of_stops id token baseUrl status changes
          hrun hstatus hx
        rw [hreceive] at hnext
        have hv' := view?_put_close (w := ⟨stopped id token baseUrl (t.hear x) x.stopStatus changes'
          wanted, some ⟨rest, ends⟩⟩) hv
        have hanswers : Feed.answers ⟨x :: rest, ends⟩ t = 0 + 1 := by
          simp [Feed.answers, Timeline.heard, Timeline.stop?, hx]
        rw [hanswers]
        refine ⟨_, _, .next hv hnext (runsToRest_without_feed hv'), hv', ?_, rfl, ?_, ?_⟩
        · rw [view_stopped]
          simp [Feed.restStatus, Timeline.heard, Timeline.stop?, hx]
        · exact fun _ => ⟨rfl, closed_put_close, receive_stopped⟩
        · simp [Feed.Stops, Timeline.stop?, hx]
      · obtain ⟨hrun', changes', hreceive⟩ := receive_of_not_stops id token baseUrl
          status changes hrun hx
        rw [hreceive] at hnext
        have hv' := view?_put_nil (w := ⟨following id token baseUrl (t.hear x)
          (x.statusAfter status) changes', some ⟨rest, ends⟩⟩) hv
        obtain ⟨rested, v, hruns, hv'', hrest⟩ :=
          ih hrun' (Signal.statusAfter_ne_closed hstatus x) hv'
        have hanswers : Feed.answers ⟨x :: rest, ends⟩ t =
            Feed.answers ⟨rest, ends⟩ (t.hear x) + 1 := by
          simp only [Feed.answers, Timeline.heard, Timeline.stop?, hx, if_false, List.length_cons]
          omega
        rw [hanswers]
        refine ⟨rested, v, .next hv hnext hruns, hv'', ?_, hrest.opened, ?_, ?_⟩
        · simpa [Feed.restStatus, Timeline.heard, Timeline.stop?, hx] using hrest.view
        · simpa [Feed.Stops, Timeline.stop?, hx] using hrest.stopped
        · simpa [Feed.Stops, Timeline.stop?, hx] using hrest.waiting

/-! ## From the load on -/

theorem applySnapshot_fresh (s : DetailSession) (i : Nat) (id : TaskId) (token : MountToken)
    (baseUrl : String) {snapshot : TaskSnapshot} (hrun : snapshot.task.isTerminal = false) :
    s.applySnapshot i ⟨.mount id token baseUrl, none⟩ token (.ok snapshot) =
      (s.put i ⟨following id token baseUrl (Timeline.ofSnapshot snapshot) .connecting 1, none⟩
        [.open ((openStream id baseUrl .connecting 1).streamUrl id)], true) := by
  simp only [applySnapshot, applySnapshot_mount hrun]

theorem view?_put_open {b : DetailBinder} {url : String} {f : Feed} {queued : List Feed}
    (hv : s.view? i = some v) (hqueued : s.channel.queued = f :: queued) :
    (s.put i ⟨b, none⟩ [.open url]).view? i = some ⟨b, some f⟩ := by
  simp [put, view?, ScriptedChannel.serveAll, ScriptedChannel.serve, lt_length_of_view? hv,
    hqueued]

/-- A view whose task has not ended when its snapshot is loaded opens one subscription and follows
it to rest, in one way. It then shows the timeline of the snapshot with the envelopes heard up to
the first stop in it; a subscription that was stopped is closed once, and none of what it had left
is taken. -/
theorem loaded_view_rests {snapshot : TaskSnapshot} {f : Feed} {queued : List Feed}
    (hv : s.view? i = some ⟨.mount id token baseUrl, none⟩)
    (hrun : snapshot.task.isTerminal = false) (hqueued : s.channel.queued = f :: queued) :
    let loaded := s.applySnapshot i ⟨.mount id token baseUrl, none⟩ token (.ok snapshot)
    let t := Timeline.ofSnapshot snapshot
    let url := withoutSlashes baseUrl ++ "/api/stream/task/" ++ id.text
    loaded.2 = true ∧ loaded.1.channel = ⟨queued, s.channel.opened ++ [url], s.channel.closed⟩ ∧
      ∃ rested v, rested.view? i = some v ∧
        (∀ n other, RunsToRest i loaded.1 n other ↔ n = f.answers t ∧ other = rested) ∧
        AtRest id t .connecting f loaded.1.channel v rested.channel := by
  intro loaded t url
  have hloaded := applySnapshot_fresh s i id token baseUrl hrun
  have hchannel : loaded.1.channel =
      ⟨queued, s.channel.opened ++ [url], s.channel.closed⟩ := by
    simp only [loaded, hloaded, put, ScriptedChannel.serveAll, ScriptedChannel.serve, hqueued]
    rfl
  have hfollowing : loaded.1.view? i =
      some ⟨following id token baseUrl t .connecting 1, some ⟨f.signals, f.ends⟩⟩ := by
    simp only [loaded, hloaded]
    exact view?_put_open hv hqueued
  obtain ⟨rested, v, hruns, hrested, hrest⟩ :=
    follow_to_rest f.signals f.ends (t := t) hrun (by simp) hfollowing
  refine ⟨by simp [loaded, hloaded], hchannel, rested, v, hrested, ?_, hrest⟩
  intro n other
  constructor
  · intro h
    exact h.unique hruns
  · rintro ⟨rfl, rfl⟩
    exact hruns

/-! ## A task that fails -/

def runningSnapshot (id : TaskId) : TaskSnapshot where
  task :=
    { id := id, createdAt := ⟨⟨2026, 3, 1⟩, 0, 0⟩, updatedAt := ⟨⟨2026, 3, 1⟩, 0, 0⟩,
      status := .running, title := "demo", thread := "th", scope := "sc",
      requester := ⟨"web", "owner"⟩, risk := .low }
  events := []
  artifacts := []

/-- The task `t1` fails; the message does not say that it is the last one. -/
def failure : Signal :=
  .message "STATE_TRANSITION" ("\x7b\"event_id\":\"e1\",\"task_seq\":1," ++
    "\"ts\":\"2026-03-01T10:00:03Z\",\"type\":\"STATE_TRANSITION\",\"actor\":\"u\"," ++
    "\"payload\":\x7b\"to_status\":\"FAILED\"\x7d,\"task_id\":\"t1\"\x7d")

def waitingView (f : Feed) : DetailSession :=
  ⟨"http://gw", [some ⟨.mount ⟨"t1"⟩ ⟨0⟩ "http://gw", none⟩], ⟨[f], [], 0⟩⟩

/-- A refusal stops the stream before the failure is heard. -/
theorem refused_view_rests :
    (waitingView ⟨[.opened, .refused, failure], false⟩).view? 0 =
        some ⟨.mount ⟨"t1"⟩ ⟨0⟩ "http://gw", none⟩ ∧
      (runningSnapshot ⟨"t1"⟩).task.isTerminal = false ∧
      ∃ rested v, rested.view? 0 = some v ∧
        RunsToRest 0 ((waitingView ⟨[.opened, .refused, failure], false⟩).applySnapshot 0
          ⟨.mount ⟨"t1"⟩ ⟨0⟩ "http://gw", none⟩ ⟨0⟩ (.ok (runningSnapshot ⟨"t1"⟩))).1 2 rested ∧
        v.binder.view.streamStatus = some .closed ∧ rested.channel.closed = 1 := by
  have hview : (waitingView ⟨[.opened, .refused, failure], false⟩).view? 0 =
      some ⟨.mount ⟨"t1"⟩ ⟨0⟩ "http://gw", none⟩ := rfl
  have hrun : (runningSnapshot ⟨"t1"⟩).task.isTerminal = false := rfl
  have hqueued : (waitingView ⟨[.opened, .refused, failure], false⟩).channel.queued =
      [⟨[.opened, .refused, failure], false⟩] := rfl
  refine ⟨hview, hrun, ?_⟩
  obtain ⟨-, hchannel, rested, v, hv, hruns, hrest⟩ := loaded_view_rests hview hrun hqueued
  have hopened (t : Timeline) : ¬ Signal.opened.Stops t := by
    simp [Signal.Stops, Signal.closesStream, Signal.EndsTask, Signal.envelope?]
  have hrefused (t : Timeline) : Signal.refused.Stops t := by
    simp [Signal.Stops, Signal.closesStream]
  refine ⟨rested, v, hv, (hruns 2 rested).mpr ⟨?_, rfl⟩, ?_, ?_⟩
  · simp [Feed.answers, Timeline.heard, Timeline.stop?, hopened, hrefused]
  · rw [hrest.view]
    simp [loadedView, Feed.restStatus, Timeline.stop?, hopened, hrefused, Signal.stopStatus,
      Signal.closesStream]
  · rw [(hrest.stopped (by simp [Feed.Stops, Timeline.stop?, hopened, hrefused])).2.1, hchannel]
    rfl

theorem envelope?_failure :
    failure.envelope?.map (fun e => (e.taskId, e.target, e.final)) =
      some (⟨"t1"⟩, some .failed, false) := by
  decide +kernel

theorem failure_endsTask :
    failure.closesStream = false ∧
      failure.EndsTask (Timeline.ofSnapshot (runningSnapshot ⟨"t1"⟩)) := by
  obtain ⟨e, he, hparts⟩ := Option.map_eq_some_iff.mp envelope?_failure
  simp only [Prod.mk.injEq] at hparts
  obtain ⟨htask, htarget, hfinal⟩ := hparts
  refine ⟨(Signal.closesStream_of_envelope? he).trans hfinal, e, he, ⟨htask, ?_⟩, ?_⟩
  · -- No event is there yet.
    simp [Timeline.contains, Timeline.ofSnapshot, Timeline.firsts, runningSnapshot]
  · rw [htarget]
    rfl

/-- The transition that ends the task stops the stream, and the status is then not closed. -/
theorem failed_view_rests_disconnected :
    Feed.Stops ⟨[failure], false⟩ (Timeline.ofSnapshot (runningSnapshot ⟨"t1"⟩)) ∧
      ∃ rested v, rested.view? 0 = some v ∧
        RunsToRest 0 ((waitingView ⟨[failure], false⟩).applySnapshot 0
          ⟨.mount ⟨"t1"⟩ ⟨0⟩ "http://gw", none⟩ ⟨0⟩ (.ok (runningSnapshot ⟨"t1"⟩))).1 1 rested ∧
        v.feed = none ∧ v.binder.view.streamStatus = some .disconnected := by
  obtain ⟨hopen, hends⟩ := failure_endsTask
  have hfailure : failure.Stops (Timeline.ofSnapshot (runningSnapshot ⟨"t1"⟩)) := .inr hends
  have hstops : Feed.Stops ⟨[failure], false⟩
      (Timeline.ofSnapshot (runningSnapshot ⟨"t1"⟩)) := by
    simp [Feed.Stops, Timeline.stop?, hfailure]
  have hanswers : Feed.answers ⟨[failure], false⟩
      (Timeline.ofSnapshot (runningSnapshot ⟨"t1"⟩)) = 1 := by
    simp [Feed.answers, Timeline.heard, Timeline.stop?, hfailure]
  have hfollowing : ((waitingView ⟨[failure], false⟩).applySnapshot 0
      ⟨.mount ⟨"t1"⟩ ⟨0⟩ "http://gw", none⟩ ⟨0⟩ (.ok (runningSnapshot ⟨"t1"⟩))).1.view? 0 =
      some ⟨following ⟨"t1"⟩ ⟨0⟩ "http://gw" (Timeline.ofSnapshot (runningSnapshot ⟨"t1"⟩))
        .connecting 1, some ⟨[failure], false⟩⟩ := rfl
  refine ⟨hstops, ?_⟩
  obtain ⟨rested, v, hruns, hv, hrest⟩ :=
    follow_to_rest [failure] false rfl (by simp) hfollowing
  rw [hanswers] at hruns
  refine ⟨rested, v, hv, hruns, (hrest.stopped hstops).1, ?_⟩
  rw [hrest.view]
  simp [loadedView, Feed.restStatus, Timeline.stop?, hfailure, Signal.stopStatus, hopen]

end DetailSession

end TaskMonitor
