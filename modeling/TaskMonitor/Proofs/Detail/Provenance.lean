import TaskMonitor.Proofs.Detail.Lifecycle
import TaskMonitor.Proofs.Detail.Phase
import TaskMonitor.Proofs.Detail.Rest
import TaskMonitor.Proofs.Timeline.Indexing

/-! # Where what a view shows comes from

A view shows the task that was loaded for it, and the events that it was sent of that task. An
envelope of another task can at most close its stream. -/

namespace TaskMonitor.DetailBinder

open DetailSession (runningSnapshot)

variable {id : TaskId} {token : MountToken} {baseUrl : String}

/-! ## Envelopes of other tasks -/

theorem hear_foreign {t : Timeline} {channel data : String} {e : Envelope}
    (he : Json.Decoder.readText? Decode.envelope data = some e) (hforeign : e.taskId ≠ t.task.id) :
    t.hear (.message channel data) = t := by
  have hrefused : ¬ t.Accepts e := fun hacc => hforeign hacc.1
  simp only [Timeline.hear, Signal.envelope?, StreamManager.envelopeOf?, he]
  split
  · exact Timeline.apply_of_not_accepts hrefused
  · rfl

/-- An envelope of another task closes the stream if it comes as the last one, and does nothing
else. -/
theorem receive_foreign (id : TaskId) (token : MountToken) (baseUrl : String) {t : Timeline}
    (status : StreamStatus) (changes : Nat) (hrun : t.isTerminal = false) (channel : String)
    {data : String} {e : Envelope}
    (he : Json.Decoder.readText? Decode.envelope data = some e) (hforeign : e.taskId ≠ t.task.id) :
    ∃ changes',
      (following id token baseUrl t status changes).receive (some (.message channel data)) =
        if (StreamManager.isKnownChannel channel && e.final) = true then
          (stopped id token baseUrl t .closed changes' true, [.close])
        else (following id token baseUrl t status changes', []) := by
  have hcloses : Signal.closesStream (.message channel data) =
      (StreamManager.isKnownChannel channel && e.final) := by
    simp only [Signal.closesStream, Signal.envelope?, StreamManager.envelopeOf?, he]
    cases StreamManager.isKnownChannel channel <;> simp
  obtain ⟨changes', hreceive⟩ :=
    receive_following id token baseUrl status changes (t := t) (.message channel data)
  have hstatus : Signal.statusAfter status (.message channel data) = status := rfl
  refine ⟨changes', ?_⟩
  rw [hreceive, hcloses, hear_foreign he hforeign, hrun, hstatus, evaluate_following hrun]
  rfl

/-- Whatever happened to a view that has a subscription, an envelope of another task than the
loaded one leaves everything that is shown of the task. Only when it is the last envelope of the
stream, it closes the subscription. -/
theorem foreign_envelope_run {ops : List Operation}
    (hlive : (run id token baseUrl ops).binder.isStreaming = true) (channel : String)
    {data : String} {e : Envelope}
    (he : Json.Decoder.readText? Decode.envelope data = some e)
    (hforeign : ∀ task, (run id token baseUrl ops).binder.view.task = some task →
      e.taskId ≠ task.id) :
    let h := run id token baseUrl ops
    let after := h.perform (.next (.signal (.message channel data)))
    if (StreamManager.isKnownChannel channel && e.final) = true then
      after.binder.view = { h.binder.view with streamStatus := some .closed } ∧
        after.binder.isStreaming = false ∧ after.requests = h.requests ++ [.close]
    else
      after.binder.view = h.binder.view ∧ after.binder.isStreaming = true ∧
        after.requests = h.requests := by
  intro h after
  have hs : h.Staged id token baseUrl ops := staged_run id token baseUrl ops
  obtain ⟨t, status, changes, hrun, hbinder⟩ := hs.stage.eq_following hlive
  have hother : e.taskId ≠ t.task.id := by
    apply hforeign
    change h.binder.view.task = some t.task
    rw [hbinder, view_following]
    rfl
  obtain ⟨changes', hreceive⟩ :=
    receive_foreign id token baseUrl status changes hrun channel he hother
  have hafter : after = h.note (h.binder.receive (some (.message channel data))) :=
    History.perform_signal (hs.kept hlive) _
  rw [hafter, hbinder, hreceive]
  split
  · exact ⟨by simp [view_stopped, view_following, loadedView], rfl, rfl⟩
  · exact ⟨by simp [view_following], rfl, by simp [History.note]⟩

def otherText (final : Bool) : String :=
  "\x7b\"event_id\":\"e5\",\"task_seq\":5,\"ts\":\"2026-03-01T10:00:03Z\"," ++
    "\"type\":\"USER_MESSAGE\",\"actor\":\"u\",\"task_id\":\"t2\",\"final\":" ++
    (if final then "true" else "false") ++ "\x7d"

def otherEnvelope (final : Bool) : Envelope where
  event := ⟨⟨"e5"⟩, 5, ⟨⟨2026, 3, 1⟩, 36003, 0⟩, .userMessage, "u", []⟩
  taskId := ⟨"t2"⟩
  final := final

theorem readText?_otherText (final : Bool) :
    Json.Decoder.readText? Decode.envelope (otherText final) = some (otherEnvelope final) := by
  -- Payloads have no decidable equality: of this one it is enough that it is empty.
  have hparts : (Json.Decoder.readText? Decode.envelope (otherText final)).any (fun e =>
      e.event.id = ⟨"e5"⟩ ∧ e.event.sequence = 5 ∧
      e.event.occurredAt = ⟨⟨2026, 3, 1⟩, 36003, 0⟩ ∧ e.event.type = .userMessage ∧
      e.event.actor = "u" ∧ e.event.payload.isEmpty ∧ e.taskId = ⟨"t2"⟩ ∧ e.final = final) := by
    cases final <;> decide +kernel
  obtain ⟨⟨⟨id, sequence, occurredAt, type, actor, payload⟩, taskId, final'⟩, he, hfields⟩ :=
    (Option.any_eq_true _ _).mp hparts
  simp only [decide_eq_true_eq, List.isEmpty_iff] at hfields
  obtain ⟨rfl, rfl, rfl, rfl, rfl, rfl, rfl, rfl⟩ := hfields
  exact he

def loadedRun (loaded : TaskId) : History :=
  run ⟨"t1"⟩ ⟨0⟩ "http://gw" [.apply ⟨0⟩ (.ok (runningSnapshot loaded))]

theorem binder_loadedRun (loaded : TaskId) :
    (loadedRun loaded).binder = following ⟨"t1"⟩ ⟨0⟩ "http://gw"
      (Timeline.ofSnapshot (runningSnapshot loaded)) .connecting 1 := rfl

theorem other_envelope_kept :
    (loadedRun ⟨"t1"⟩).binder.isStreaming = true ∧
      Json.Decoder.readText? Decode.envelope (otherText false) = some (otherEnvelope false) ∧
      (∀ task, (loadedRun ⟨"t1"⟩).binder.view.task = some task →
        (otherEnvelope false).taskId ≠ task.id) ∧
      (let after := (loadedRun ⟨"t1"⟩).perform
          (.next (.signal (.message "USER_MESSAGE" (otherText false))))
       after.binder.view = (loadedRun ⟨"t1"⟩).binder.view ∧ after.binder.isStreaming = true) := by
  have hlive : (loadedRun ⟨"t1"⟩).binder.isStreaming = true := rfl
  have he := readText?_otherText false
  have hforeign : ∀ task, (loadedRun ⟨"t1"⟩).binder.view.task = some task →
      (otherEnvelope false).taskId ≠ task.id := by
    rintro _ ⟨⟩
    decide
  have hkept := foreign_envelope_run hlive "USER_MESSAGE" he hforeign
  rw [if_neg (by decide)] at hkept
  exact ⟨hlive, he, hforeign, hkept.1, hkept.2.1⟩

/-- The last envelope of the stream closes it, whatever task it is of. -/
theorem last_envelope_closes :
    (loadedRun ⟨"t1"⟩).binder.isStreaming = true ∧
      Json.Decoder.readText? Decode.envelope (otherText true) = some (otherEnvelope true) ∧
      (∀ task, (loadedRun ⟨"t1"⟩).binder.view.task = some task →
        (otherEnvelope true).taskId ≠ task.id) ∧
      (let after := (loadedRun ⟨"t1"⟩).perform
          (.next (.signal (.message "USER_MESSAGE" (otherText true))))
       ¬ (after.binder.view = (loadedRun ⟨"t1"⟩).binder.view ∧
          after.binder.isStreaming = true)) := by
  have he := readText?_otherText true
  have hforeign : (otherEnvelope true).taskId ≠
      (Timeline.ofSnapshot (runningSnapshot ⟨"t1"⟩)).task.id := by decide
  have hkept : (loadedRun ⟨"t1"⟩).dropped = false := rfl
  obtain ⟨changes, hreceive⟩ := receive_foreign ⟨"t1"⟩ ⟨0⟩ "http://gw" .connecting 1 rfl
    "USER_MESSAGE" he hforeign
  rw [if_pos (by decide)] at hreceive
  refine ⟨rfl, he, ?_, ?_⟩
  · rintro _ ⟨⟩
    exact hforeign
  · intro after
    have hafter : after.binder.isStreaming = false := by
      simp only [after]
      rw [History.perform_signal hkept, History.note_binder, binder_loadedRun, hreceive]
      rfl
    simp [hafter]

/-! ## Where events come from -/

/-- The envelope that an operation brings, if it brings one that is listened to. -/
def Operation.envelope? : Operation → Option Envelope
  | .next (.signal s) => s.envelope?
  | _ => none

/-- A property of what is known of a task, and of the envelopes and the loads that it comes from. It
holds at the start, and the load and each envelope keep it. -/
structure Kept (P : List Envelope → List Load → DetailPhase → Prop) : Prop where
  start : P [] [] .loading
  more : ∀ {sent taken phase} (es : List Envelope),
    P sent taken phase → P (sent ++ es) taken phase
  failed : ∀ {sent} (token : MountToken) (e : LoadError),
    P sent [] .loading → P sent [(token, .error e)] (.failed e)
  loaded : ∀ {sent} (token : MountToken) (snapshot : TaskSnapshot),
    P sent [] .loading → P sent [(token, .ok snapshot)] (.loaded (.ofSnapshot snapshot))
  envelope : ∀ {sent taken t} {e : Envelope},
    e ∈ sent → P sent taken (.loaded t) → P sent taken (.loaded (t.apply e).1)

namespace Kept

variable {P : List Envelope → List Load → DetailPhase → Prop} {ops : List Operation} {h : History}

theorem applySnapshot (hP : Kept P) (hs : h.Staged id token baseUrl ops) {sent : List Envelope}
    (hh : P sent h.taken h.binder.phase) (token' : MountToken)
    (result : Except LoadError TaskSnapshot) :
    P sent
      (h.taken ++ if (h.binder.applySnapshot token' result).2.2 then [(token', result)] else [])
      (h.binder.applySnapshot token' result).1.phase := by
  rcases h.binder.applySnapshot_cases token' result with hrefused | ⟨hloading, htakes, hphase⟩
  · simpa [hrefused] using hh
  · obtain ⟨-, hnone, -⟩ := hs.stage.takes_iff.mp htakes
    rw [hnone, hloading] at hh
    rw [hphase, htakes, hnone]
    cases result with
    | error e => exact hP.failed token' e hh
    | ok snapshot => exact hP.loaded token' snapshot hh

theorem receive (hP : Kept P) {b : DetailBinder} {sent : List Envelope} {taken : List Load}
    (hb : P sent taken b.phase) {answer : Option Signal}
    (hsent : ∀ s e, answer = some s → s.envelope? = some e → e ∈ sent) :
    P sent taken (b.receive answer).1.phase := by
  rcases b.phase_receive answer with hsame | ⟨s, t, e, hs, he, hloaded, hphase⟩
  · rwa [hsame]
  · rw [hphase]
    rw [hloaded] at hb
    exact hP.envelope (hsent s e hs he) hb

theorem perform (hP : Kept P) (hs : h.Staged id token baseUrl ops)
    (hh : P (ops.filterMap Operation.envelope?) h.taken h.binder.phase) (op : Operation) :
    P ((ops ++ [op]).filterMap Operation.envelope?) (h.perform op).taken
      (h.perform op).binder.phase := by
  rw [List.filterMap_append]
  have hmore := hP.more ([op].filterMap Operation.envelope?) hh
  rcases h.perform_cases op with ⟨hb, htaken⟩ | ⟨token', result, -, hb, htaken⟩ |
    ⟨answer, hop, hb, htaken⟩ | ⟨-, hb, htaken⟩
  · rwa [hb, htaken]
  · rw [hb, htaken]
    exact hP.applySnapshot hs hmore token' result
  · rw [hb, htaken]
    apply hP.receive hmore
    intro s e hs he
    obtain rfl := hop s hs
    simp [Operation.envelope?, he]
  · rwa [hb, htaken, (kept_dispose h.binder).2]

theorem run (hP : Kept P) (id : TaskId) (token : MountToken) (baseUrl : String)
    (ops : List Operation) :
    P (ops.filterMap Operation.envelope?) (run id token baseUrl ops).taken
      (run id token baseUrl ops).binder.phase := by
  induction ops using List.reverseRecOn with
  | nil => exact hP.start
  | append_singleton ops op ih =>
      rw [run_concat]
      exact hP.perform (staged_run id token baseUrl ops) ih op

end Kept

/-- What a view shows after the loads that it took: the snapshot of its one load, and the events of
that task that it was sent. -/
inductive Traced (sent : List Envelope) : List Load → DetailPhase → Prop where
  | waiting : Traced sent [] .loading
  | failed (token : MountToken) (e : LoadError) : Traced sent [(token, .error e)] (.failed e)
  | loaded {snapshot : TaskSnapshot} {t : Timeline} {gained : List TaskEvent} (token : MountToken)
      (task : t.task.id = snapshot.task.id) (artifacts : t.artifacts = snapshot.artifacts)
      (events : t.events = firstOfEach snapshot.events ++ gained)
      (came : ∀ event ∈ gained, ∃ e ∈ sent, e.event = event ∧ e.taskId = snapshot.task.id) :
      Traced sent [(token, .ok snapshot)] (.loaded t)

namespace Traced

variable {sent : List Envelope} {taken : List Load} {phase : DetailPhase}

theorem mono (h : Traced sent taken phase) (more : List Envelope) :
    Traced (sent ++ more) taken phase := by
  cases h with
  | waiting => exact .waiting
  | failed token e => exact .failed token e
  | loaded token task artifacts events came =>
      refine .loaded token task artifacts events ?_
      intro event hevent
      obtain ⟨e, he, hcame⟩ := came event hevent
      exact ⟨e, List.mem_append_left more he, hcame⟩

theorem envelope {t : Timeline} {e : Envelope} (h : Traced sent taken (.loaded t)) (he : e ∈ sent) :
    Traced sent taken (.loaded (t.apply e).1) := by
  cases h with
  | @loaded snapshot _ gained token task artifacts events came =>
      have htask : (t.apply e).1.task.id = snapshot.task.id := by rw [Timeline.apply_task_id, task]
      have hartifacts : (t.apply e).1.artifacts = snapshot.artifacts := by
        rw [Timeline.apply_artifacts, artifacts]
      rcases t.events_apply_cases e with hsame | ⟨hown, hadded⟩
      · exact .loaded token htask hartifacts (hsame.trans events) came
      · rw [events, List.append_assoc] at hadded
        refine .loaded token htask hartifacts hadded ?_
        intro event hevent
        rcases List.mem_append.mp hevent with hbefore | hlast
        · exact came event hbefore
        · exact ⟨e, he, (List.mem_singleton.mp hlast).symm, hown.trans task⟩

theorem ofSnapshot (sent : List Envelope) (token : MountToken) (snapshot : TaskSnapshot) :
    Traced sent [(token, .ok snapshot)] (.loaded (.ofSnapshot snapshot)) := by
  have hevents : (Timeline.ofSnapshot snapshot).events = firstOfEach snapshot.events ++ [] := by
    rw [List.append_nil]
    exact (Timeline.firsts_empty snapshot.events).1
  exact .loaded token rfl rfl hevents (by simp)

end Traced

/-! ### Whole lives -/

theorem traced_run (id : TaskId) (token : MountToken) (baseUrl : String) (ops : List Operation) :
    Traced (ops.filterMap Operation.envelope?) (run id token baseUrl ops).taken
      (run id token baseUrl ops).binder.phase := by
  have hkept : Kept Traced :=
    { start := .waiting
      more := fun es h => h.mono es
      failed := fun token e _ => .failed token e
      loaded := fun token snapshot _ => .ofSnapshot _ token snapshot
      envelope := fun he h => h.envelope he }
  exact hkept.run id token baseUrl ops

theorem taskId_perform (h : History) (op : Operation) :
    (h.perform op).binder.taskId = h.binder.taskId := by
  rcases h.perform_cases op with ⟨hb, -⟩ | ⟨token, result, -, hb, -⟩ | ⟨answer, -, hb, -⟩ |
    ⟨-, hb, -⟩
  · rw [hb]
  · rw [hb, (goesOn_applySnapshot h.binder token result).taskId]
  · rw [hb, (goesOn_receive h.binder answer).taskId]
  · rw [hb, (kept_dispose h.binder).1]

theorem taskId_run (id : TaskId) (token : MountToken) (baseUrl : String) (ops : List Operation) :
    (run id token baseUrl ops).binder.taskId = id := by
  induction ops using List.reverseRecOn with
  | nil => rfl
  | append_singleton ops op ih => rw [run_concat, taskId_perform, ih]

structure Provenance (id : TaskId) (token : MountToken) (ops : List Operation) (h : History) :
    Prop where
  mounted : h.binder.view.taskId = id
  shown : ∀ task, h.binder.view.task = some task → ∃ snapshot gained,
    h.taken = [(token, .ok snapshot)] ∧ task.id = snapshot.task.id ∧
    h.binder.view.artifacts = snapshot.artifacts ∧
    h.binder.view.events = firstOfEach snapshot.events ++ gained ∧
    ∀ event ∈ gained, ∃ e ∈ ops.filterMap Operation.envelope?,
      e.event = event ∧ e.taskId = task.id
  empty : h.binder.view.task = none → h.binder.view.events = [] ∧ h.binder.view.artifacts = []

/-- Whatever is done to a view, it shows nothing but the task, the artifacts and the events of the
snapshot that was loaded for it, and the events that it was sent of the task it shows. -/
theorem provenance_run (id : TaskId) (token : MountToken) (baseUrl : String)
    (ops : List Operation) : Provenance id token ops (run id token baseUrl ops) := by
  have htraced := traced_run id token baseUrl ops
  have htoken := (staged_run id token baseUrl ops).stage.token_eq
  have hmounted := taskId_run id token baseUrl ops
  generalize run id token baseUrl ops = h at htraced htoken hmounted
  obtain ⟨⟨taskId, token', phase, stream, url, disposed⟩, requests, taken, dropped⟩ := h
  cases htraced with
  | waiting => exact ⟨hmounted, by simp [view, timeline?], fun _ => ⟨rfl, rfl⟩⟩
  | failed loadToken e => exact ⟨hmounted, by simp [view, timeline?], fun _ => ⟨rfl, rfl⟩⟩
  | @loaded snapshot t gained loadToken task artifacts events came =>
      obtain rfl : loadToken = token := htoken _ (List.mem_singleton_self _)
      refine ⟨hmounted, ?_, by simp [view, timeline?]⟩
      rintro _ ⟨⟩
      refine ⟨snapshot, gained, rfl, task, artifacts, events, ?_⟩
      rwa [task]

/-- A gateway that answers with another task than the one that was asked for is believed: the view
shows that task, and what it is sent of it. -/
theorem other_task_shown :
    Json.Decoder.readText? Decode.envelope (otherText false) = some (otherEnvelope false) ∧
      (let after := (loadedRun ⟨"t2"⟩).perform
          (.next (.signal (.message "USER_MESSAGE" (otherText false))))
       after.binder.view.taskId = ⟨"t1"⟩ ∧
        (∃ task, after.binder.view.task = some task ∧ task.id = ⟨"t2"⟩) ∧
        (loadedRun ⟨"t2"⟩).binder.view.events = [] ∧
        after.binder.view.events = [(otherEnvelope false).event] ∧
        (otherEnvelope false).taskId ≠ ⟨"t1"⟩) := by
  have he := readText?_otherText false
  have henvelope : Signal.envelope? (.message "USER_MESSAGE" (otherText false)) =
      some (otherEnvelope false) := by
    have hknown : StreamManager.isKnownChannel "USER_MESSAGE" = true := rfl
    simp [Signal.envelope?, StreamManager.envelopeOf?, hknown, he]
  let t := Timeline.ofSnapshot (runningSnapshot ⟨"t2"⟩)
  have hacc : t.Accepts (otherEnvelope false) := by
    refine ⟨rfl, ?_⟩
    -- No event is there yet.
    simp [t, Timeline.contains, Timeline.ofSnapshot, Timeline.firsts, runningSnapshot]
  have hgoes : ¬ Signal.Stops (.message "USER_MESSAGE" (otherText false)) t := by
    rintro (hcloses | ⟨e, hsome, -, hended⟩)
    · rw [Signal.closesStream_of_envelope? henvelope] at hcloses
      cases hcloses
    · obtain rfl := Option.some.inj (henvelope.symm.trans hsome)
      cases hended
  obtain ⟨-, changes, hreceive⟩ :=
    receive_of_not_stops ⟨"t1"⟩ ⟨0⟩ "http://gw" .connecting 1 (t := t) rfl hgoes
  have hhear : t.hear (.message "USER_MESSAGE" (otherText false)) =
      (t.apply (otherEnvelope false)).1 := by
    simp [Timeline.hear, henvelope]
  have hkept : (loadedRun ⟨"t2"⟩).dropped = false := rfl
  refine ⟨he, ?_⟩
  intro after
  have hview : after.binder.view =
      loadedView ⟨"t1"⟩ (t.apply (otherEnvelope false)).1 .connecting := by
    simp only [after]
    rw [History.perform_signal hkept, History.note_binder, binder_loadedRun, hreceive,
      view_following, hhear]
    rfl
  have hevents : (t.apply (otherEnvelope false)).1.events = [(otherEnvelope false).event] := by
    rw [Timeline.apply_of_accepts hacc]
    rfl
  rw [hview]
  exact ⟨rfl, ⟨_, rfl, t.apply_task_id _⟩, rfl, hevents, by decide⟩

end TaskMonitor.DetailBinder
