import TaskMonitor.Detail.Binder
import TaskMonitor.Proofs.Stream.Manager
import TaskMonitor.Proofs.Timeline.Merging

/-! # A detail view that follows its task

One signal either leaves the subscription open or stops it for good. -/

namespace TaskMonitor

/-! ## What a signal brings -/

namespace Signal

def envelope? : Signal → Option Envelope
  | .message channel data => StreamManager.envelopeOf? channel data
  | _ => none

/-- The signal closes the stream for good: a refusal, or an envelope that says it is the last. -/
def closesStream (s : Signal) : Bool := s = .refused || s.envelope?.any (·.final)

theorem closesStream_of_envelope? {s : Signal} {e : Envelope} (h : s.envelope? = some e) :
    s.closesStream = e.final := by
  cases s with
  | message channel data => simpa [closesStream] using congrArg (·.any (·.final)) h
  | _ => simp [envelope?] at h

def EndsTask (s : Signal) (t : Timeline) : Prop := ∃ e, s.envelope? = some e ∧ t.EndedBy e

instance (s : Signal) (t : Timeline) : Decidable (s.EndsTask t) :=
  decidable_of_iff (s.envelope?.any fun e => decide (t.EndedBy e)) (by
    simp [EndsTask, Option.any_eq_true])

/-- No signal is taken after this one. -/
def Stops (s : Signal) (t : Timeline) : Prop := s.closesStream = true ∨ s.EndsTask t

instance (s : Signal) (t : Timeline) : Decidable (s.Stops t) :=
  inferInstanceAs (Decidable (_ ∨ _))

/-- The status of a stream that a signal stopped. When the task just ended, the stream is switched
off. -/
def stopStatus (s : Signal) : StreamStatus :=
  if s.closesStream then .closed else .disconnected

def statusAfter (status : StreamStatus) : Signal → StreamStatus
  | .opened => .connected
  | .interrupted => .disconnected
  | _ => status

end Signal

def Timeline.hear (t : Timeline) (s : Signal) : Timeline := t.applyAll s.envelope?.toList

theorem Timeline.isTerminal_hear {t : Timeline} (h : t.isTerminal = false) (s : Signal) :
    (t.hear s).isTerminal = decide (s.EndsTask t) := by
  unfold hear
  cases henvelope : s.envelope? with
  | none => simpa [Signal.EndsTask, henvelope] using h
  | some e => simpa [Signal.EndsTask, henvelope] using isTerminal_apply h e

theorem Signal.statusAfter_ne_closed {status : StreamStatus} (h : status ≠ .closed)
    (s : Signal) : s.statusAfter status ≠ .closed := by
  cases s <;> simp [statusAfter, h]

theorem Signal.EndsTask.statusAfter_eq {s : Signal} {t : Timeline} (h : s.EndsTask t)
    (status : StreamStatus) : s.statusAfter status = status := by
  obtain ⟨e, he, -⟩ := h
  cases s <;> first | rfl | simp [envelope?] at he

namespace DetailBinder

/-! ## Views that follow, and views whose stream has stopped -/

def listening : HandlerSlot Unit := HandlerSlot.empty.set handler

theorem invoke_listening : listening.invoke = (listening, some ((), [])) := rfl

def openStream (id : TaskId) (baseUrl : String) (status : StreamStatus) (changes : Nat) :
    StreamManager Unit where
  baseUrl := withoutSlashes baseUrl
  key := some (some id, true)
  subscribed := some id
  status := status
  statusChanges := changes
  slot := listening

def following (id : TaskId) (token : MountToken) (baseUrl : String) (t : Timeline)
    (status : StreamStatus) (changes : Nat) : DetailBinder where
  taskId := id
  token := token
  phase := .loaded t
  stream := some (openStream id baseUrl status changes)
  baseUrl := baseUrl
  disposed := false

/-- A loaded view whose subscription was given up. `wanted` is the last flag that its stream was
told. -/
def stopped (id : TaskId) (token : MountToken) (baseUrl : String) (t : Timeline)
    (status : StreamStatus) (changes : Nat) (wanted : Bool) : DetailBinder :=
  { following id token baseUrl t status changes with
    stream := some { openStream id baseUrl status changes with
      key := some (some id, wanted)
      subscribed := none } }

def loadedView (id : TaskId) (t : Timeline) (status : StreamStatus) : DetailView where
  taskId := id
  loading := false
  task := some t.task
  events := t.events
  artifacts := t.artifacts
  error := none
  streamStatus := some status
  streamEnabled := !t.isTerminal

variable {id : TaskId} {token : MountToken} {baseUrl : String} {t : Timeline}
  {status : StreamStatus} {changes : Nat}

theorem view_following :
    (following id token baseUrl t status changes).view = loadedView id t status := by
  simp [view, following, loadedView, openStream, isLoading, timeline?, streamEnabled]

theorem view_stopped {wanted : Bool} :
    (stopped id token baseUrl t status changes wanted).view = loadedView id t status := by
  simp [view, stopped, following, loadedView, isLoading, timeline?, streamEnabled, openStream]

/-- After a stop nothing that arrives changes the view. -/
theorem receive_stopped {wanted : Bool} (answer : Option Signal) :
    (stopped id token baseUrl t status changes wanted).receive answer =
      (stopped id token baseUrl t status changes wanted, []) := rfl

/-! ## The load -/

/-- The load of a task that has not ended opens its stream. -/
theorem applySnapshot_mount {snapshot : TaskSnapshot} (h : snapshot.task.isTerminal = false) :
    (mount id token baseUrl).applySnapshot token (.ok snapshot) =
      (following id token baseUrl (Timeline.ofSnapshot snapshot) .connecting 1,
        [.open ((openStream id baseUrl .connecting 1).streamUrl id)], true) := by
  have hrun : (Timeline.ofSnapshot snapshot).isTerminal = false := h
  simp only [applySnapshot, mount, isLoading, evaluate, streamEnabled, timeline?, hrun,
    Option.any_some, Bool.not_false, Bool.and_self, if_true]
  rw [if_neg (by simp)]
  rfl

/-! ## One signal -/

theorem evaluate_of_key {b : DetailBinder} {m : StreamManager Unit} (hm : b.stream = some m)
    (hkey : m.key = some (some b.taskId, b.streamEnabled)) : b.evaluate = (b, []) := by
  obtain ⟨taskId, token, phase, stream, baseUrl, disposed⟩ := b
  subst hm
  simp only [evaluate, StreamManager.update_of_key_eq hkey]

theorem evaluate_following (h : t.isTerminal = false) :
    (following id token baseUrl t status changes).evaluate =
      (following id token baseUrl t status changes, []) := by
  apply evaluate_of_key rfl
  simp [openStream, following, streamEnabled, timeline?, h]

/-- The stream of a task that has ended is switched off, and the subscription is given up. -/
theorem evaluate_ended (h : t.isTerminal = true) (hstatus : status ≠ .closed) :
    (following id token baseUrl t status changes).evaluate =
      (stopped id token baseUrl t .disconnected (changes + 1) false, [.close]) := by
  have henabled : (following id token baseUrl t status changes).streamEnabled = false := by
    simp [streamEnabled, following, timeline?, h]
  have hkey : (openStream id baseUrl status changes).key ≠ some (some id, false) := by
    simp [openStream]
  simp only [evaluate, following] at henabled ⊢
  rw [henabled, StreamManager.update_off (.inr rfl) hkey,
    if_neg (by simp [openStream, hstatus])]
  rfl

/-- A stream that was closed for good stays closed, whether its task has ended or not. -/
theorem evaluate_closed :
    (stopped id token baseUrl t .closed changes true).evaluate =
      (stopped id token baseUrl t .closed changes !t.isTerminal, []) := by
  cases hterminal : t.isTerminal with
  | false =>
      apply evaluate_of_key rfl
      simp [stopped, following, streamEnabled, timeline?, hterminal]
  | true =>
      have henabled : (stopped id token baseUrl t .closed changes true).streamEnabled = false := by
        simp [streamEnabled, stopped, following, timeline?, hterminal]
      simp only [evaluate, stopped, following] at henabled ⊢
      rw [henabled, StreamManager.update_off (.inr rfl) (by simp), if_pos (by simp [openStream])]
      rfl

variable (id) (token) (baseUrl) (status) (changes)

theorem receive_openStream (s : Signal) :
    ∃ changes', (openStream id baseUrl status changes).receive (some s) =
      { manager :=
          if s.closesStream then
            { openStream id baseUrl .closed changes' with subscribed := none }
          else openStream id baseUrl (s.statusAfter status) changes'
        requests := if s.closesStream then [.close] else []
        call := s.envelope?.map fun e => ⟨(), e, []⟩ } := by
  cases s with
  | opened => exact ⟨changes + 1, rfl⟩
  | interrupted => exact ⟨changes + 1, rfl⟩
  | refused => exact ⟨changes + 1, rfl⟩
  | message channel data =>
      have hcloses : Signal.closesStream (.message channel data) =
          (StreamManager.envelopeOf? channel data).any (·.final) := by
        simp [Signal.closesStream, Signal.envelope?]
      rw [hcloses]
      simp only [StreamManager.receive, StreamManager.dispatch, StreamManager.onMessage,
        Signal.envelope?, Signal.statusAfter]
      cases StreamManager.envelopeOf? channel data with
      | none => exact ⟨changes, rfl⟩
      | some e =>
          cases hfinal : e.final with
          | false =>
              refine ⟨changes, ?_⟩
              simp [openStream, StreamManager.isLive, hfinal, invoke_listening]
          | true =>
              refine ⟨changes + 1, ?_⟩
              simp [openStream, StreamManager.isLive, hfinal, invoke_listening,
                StreamManager.close_fst, StreamManager.teardown_snd, StreamManager.setStatus]

theorem deliver_loaded {b : DetailBinder} (hphase : b.phase = .loaded t) (e? : Option Envelope) :
    b.deliver (e?.map fun e => ⟨(), e, []⟩) =
      { b with phase := .loaded (t.applyAll e?.toList) } := by
  obtain ⟨taskId, token, phase, stream, baseUrl, disposed⟩ := b
  subst hphase
  cases e? <;> rfl

/-- What a view that follows makes of a signal: its stream handles it, the timeline hears it, and
the stream is told what is wanted then. -/
theorem receive_following (s : Signal) :
    ∃ changes',
      (following id token baseUrl t status changes).receive (some s) =
        if s.closesStream then
          (stopped id token baseUrl (t.hear s) .closed changes' !(t.hear s).isTerminal, [.close])
        else
          (following id token baseUrl (t.hear s) (s.statusAfter status) changes').evaluate := by
  obtain ⟨changes', hd⟩ := receive_openStream id baseUrl status changes s
  refine ⟨changes', ?_⟩
  have hreceive : (following id token baseUrl t status changes).receive (some s) =
      (let d := (openStream id baseUrl status changes).receive (some s)
        let done := ({ following id token baseUrl t status changes with
          stream := some d.manager }.deliver d.call).evaluate
        (done.1, d.requests ++ done.2)) := rfl
  rw [hreceive, hd]
  simp only
  rw [deliver_loaded rfl]
  cases s.closesStream with
  | true =>
      simp only [if_true]
      exact congrArg (fun done : DetailBinder × List ChannelRequest =>
        (done.1, ChannelRequest.close :: done.2)) evaluate_closed
  | false =>
      simp only [Bool.false_eq_true, if_false, List.nil_append]
      rfl

/-- A signal that does not stop the stream is heard, and the view goes on following. -/
theorem receive_of_not_stops {s : Signal} (hrun : t.isTerminal = false) (hs : ¬ s.Stops t) :
    (t.hear s).isTerminal = false ∧ ∃ changes',
      (following id token baseUrl t status changes).receive (some s) =
        (following id token baseUrl (t.hear s) (s.statusAfter status) changes', []) := by
  obtain ⟨hopen, hgoes⟩ : s.closesStream = false ∧ ¬ s.EndsTask t := by
    simpa [Signal.Stops] using hs
  have hrun' : (t.hear s).isTerminal = false := by
    simp [Timeline.isTerminal_hear hrun, hgoes]
  obtain ⟨changes', hreceive⟩ := receive_following id token baseUrl status changes (t := t) s
  refine ⟨hrun', changes', ?_⟩
  rw [hreceive, hopen, if_neg (by simp), evaluate_following hrun']

/-- A signal that stops the stream is heard, and the subscription is given up once. -/
theorem receive_of_stops {s : Signal} (hrun : t.isTerminal = false) (hstatus : status ≠ .closed)
    (hs : s.Stops t) :
    ∃ changes' wanted,
      (following id token baseUrl t status changes).receive (some s) =
        (stopped id token baseUrl (t.hear s) s.stopStatus changes' wanted, [.close]) := by
  obtain ⟨changes', hreceive⟩ := receive_following id token baseUrl status changes (t := t) s
  rw [hreceive]
  cases hopen : s.closesStream with
  | true =>
      refine ⟨changes', !(t.hear s).isTerminal, ?_⟩
      rw [if_pos rfl, Signal.stopStatus, if_pos hopen]
  | false =>
      have hends : s.EndsTask t := by simpa [Signal.Stops, hopen] using hs
      have hended : (t.hear s).isTerminal = true := by
        simpa [Timeline.isTerminal_hear hrun] using hends
      refine ⟨changes' + 1, false, ?_⟩
      rw [if_neg (by simp), hends.statusAfter_eq, evaluate_ended hended hstatus,
        Signal.stopStatus, if_neg (by simp [hopen])]

theorem receive_end :
    ∃ changes' wanted,
      (following id token baseUrl t status changes).receive none =
        (stopped id token baseUrl t .closed changes' wanted, [.close]) := by
  refine ⟨changes + 1, !t.isTerminal, ?_⟩
  exact congrArg (fun done : DetailBinder × List ChannelRequest =>
    (done.1, ChannelRequest.close :: done.2)) evaluate_closed

end DetailBinder

end TaskMonitor
