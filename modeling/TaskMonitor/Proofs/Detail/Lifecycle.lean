import TaskMonitor.Proofs.Detail.Channel
import TaskMonitor.Proofs.Detail.Following
import TaskMonitor.Stream.Script

/-! # The life of a detail view

A view waits for its load, and takes one. If the task has not ended, one subscription is opened,
followed, and closed once. Nothing changes a view that was disposed of. -/

namespace TaskMonitor

theorem Signal.Stops.ended_or_closed {s : Signal} {t : Timeline} (h : s.Stops t)
    (hrun : t.isTerminal = false) : (t.hear s).isTerminal = true ∨ s.stopStatus = .closed := by
  rcases h with hcloses | hends
  · exact .inr (by simp [Signal.stopStatus, hcloses])
  · exact .inl (by simp [Timeline.isTerminal_hear hrun, hends])

namespace DetailBinder

open ChannelRequest (opened closed)

/-! ## Histories -/

inductive Operation where
  | apply (token : MountToken) (result : Except LoadError TaskSnapshot)
  /-- Waits for the subscription, which answers, ends or keeps silent. -/
  | next (answer : FeedAnswer)
  | dispose
  /-- Disposes of the view and forgets it. -/
  | drop

def Operation.ends : Operation → Bool
  | .dispose | .drop => true
  | _ => false

abbrev Load := MountToken × Except LoadError TaskSnapshot

/-- A view with what has happened so far. -/
structure History where
  binder : DetailBinder
  requests : List ChannelRequest
  taken : List Load
  dropped : Bool

namespace History

def note (h : History) (done : DetailBinder × List ChannelRequest) : History :=
  { h with binder := done.1, requests := h.requests ++ done.2 }

@[simp] theorem note_binder (h : History) (done : DetailBinder × List ChannelRequest) :
    (h.note done).binder = done.1 := rfl

@[simp] theorem note_dropped (h : History) (done : DetailBinder × List ChannelRequest) :
    (h.note done).dropped = h.dropped := rfl

/-- Nothing is done to a view that was dropped. -/
def perform (h : History) (op : Operation) : History :=
  if h.dropped then h
  else
    match op with
    | .apply token result =>
      let (b, asked, applied) := h.binder.applySnapshot token result
      { h.note (b, asked) with
        taken := h.taken ++ if applied then [(token, result)] else [] }
    | .next (.signal s) => h.note (h.binder.receive (some s))
    | .next .ended => h.note (h.binder.receive none)
    | .next .pending => h
    | .dispose => h.note h.binder.dispose
    | .drop => { h.note h.binder.dispose with dropped := true }

theorem perform_of_dropped {h : History} (hdropped : h.dropped = true) (op : Operation) :
    h.perform op = h := by
  simp [perform, hdropped]

theorem perform_signal {h : History} (hkept : h.dropped = false) (s : Signal) :
    h.perform (.next (.signal s)) = h.note (h.binder.receive (some s)) := by
  simp [perform, hkept]

/-- An operation does nothing to a view, has it take a load or an answer, or disposes of it. -/
theorem perform_cases (h : History) (op : Operation) :
    ((h.perform op).binder = h.binder ∧ (h.perform op).taken = h.taken) ∨
    (∃ token result, op = .apply token result ∧
      (h.perform op).binder = (h.binder.applySnapshot token result).1 ∧
      (h.perform op).taken = h.taken ++
        if (h.binder.applySnapshot token result).2.2 then [(token, result)] else []) ∨
    (∃ answer, (∀ s, answer = some s → op = .next (.signal s)) ∧
      (h.perform op).binder = (h.binder.receive answer).1 ∧ (h.perform op).taken = h.taken) ∨
    (op.ends = true ∧ (h.perform op).binder = h.binder.dispose.1 ∧
      (h.perform op).taken = h.taken) := by
  cases hdropped : h.dropped with
  | true => exact .inl (by simp [perform_of_dropped hdropped])
  | false =>
      simp only [perform, hdropped, Bool.false_eq_true, if_false]
      cases op with
      | apply token result => exact .inr (.inl ⟨token, result, rfl, rfl, rfl⟩)
      | next answer =>
          cases answer with
          | signal s => exact .inr (.inr (.inl ⟨some s, by simp, rfl, rfl⟩))
          | ended => exact .inr (.inr (.inl ⟨none, by simp, rfl, rfl⟩))
          | pending => exact .inl ⟨rfl, rfl⟩
      | dispose => exact .inr (.inr (.inr ⟨rfl, rfl, rfl⟩))
      | drop => exact .inr (.inr (.inr ⟨rfl, rfl, rfl⟩))

def performAll (h : History) (ops : List Operation) : History := ops.foldl perform h

end History

def run (id : TaskId) (token : MountToken) (baseUrl : String) (ops : List Operation) : History :=
  History.performAll ⟨mount id token baseUrl, [], [], false⟩ ops

theorem run_concat (id : TaskId) (token : MountToken) (baseUrl : String) (ops : List Operation)
    (op : Operation) :
    run id token baseUrl (ops ++ [op]) = (run id token baseUrl ops).perform op :=
  List.foldl_append

def Load.isRunning (l : Load) : Bool :=
  match l.2 with
  | .ok snapshot => !snapshot.task.isTerminal
  | .error _ => false

@[simp] theorem Load.isRunning_ok (token : MountToken) (snapshot : TaskSnapshot) :
    Load.isRunning (token, .ok snapshot) = !snapshot.task.isTerminal := rfl

@[simp] theorem Load.isRunning_error (token : MountToken) (e : LoadError) :
    Load.isRunning (token, .error e) = false := rfl

/-! ## Stages -/

def eventsUrl (id : TaskId) (baseUrl : String) : String :=
  withoutSlashes baseUrl ++ "/api/stream/task/" ++ id.text

/-- The stages of a view, with the loads that it took and what it asked for until then. -/
inductive Stage (id : TaskId) (token : MountToken) (baseUrl : String) :
    List Load → List ChannelRequest → DetailBinder → Prop where
  | waiting : Stage id token baseUrl [] [] (mount id token baseUrl)
  | failed (e : LoadError) :
      Stage id token baseUrl [(token, .error e)] []
        { mount id token baseUrl with phase := .failed e }
  /-- The task had ended when it was loaded. -/
  | finished {snapshot : TaskSnapshot} (h : snapshot.task.isTerminal = true) :
      Stage id token baseUrl [(token, .ok snapshot)] []
        { mount id token baseUrl with phase := .loaded (.ofSnapshot snapshot) }
  | following {snapshot : TaskSnapshot} (h : snapshot.task.isTerminal = false) {t : Timeline}
      (hrun : t.isTerminal = false) {status : StreamStatus} (hstatus : status ≠ .closed)
      (changes : Nat) :
      Stage id token baseUrl [(token, .ok snapshot)] [.open (eventsUrl id baseUrl)]
        (following id token baseUrl t status changes)
  | stopped {snapshot : TaskSnapshot} (h : snapshot.task.isTerminal = false) {t : Timeline}
      {status : StreamStatus} (hstop : t.isTerminal = true ∨ status = .closed) (changes : Nat)
      (wanted : Bool) :
      Stage id token baseUrl [(token, .ok snapshot)] [.open (eventsUrl id baseUrl), .close]
        (stopped id token baseUrl t status changes wanted)
  | disposed {taken : List Load} {asked : List ChannelRequest} {b : DetailBinder}
      (hdisposed : b.disposed = true) (hidle : b.isStreaming = false)
      (hlength : taken.length ≤ 1) (htoken : ∀ l ∈ taken, l.1 = token)
      (hstream : b.stream.isSome = taken.any Load.isRunning)
      (hasked : asked =
        if taken.any Load.isRunning then [.open (eventsUrl id baseUrl), .close] else []) :
      Stage id token baseUrl taken asked b

/-! ## One load -/

variable {id : TaskId} {token : MountToken} {baseUrl : String}

theorem applySnapshot_refused {b : DetailBinder} {token' : MountToken}
    (h : b.disposed = true ∨ token' ≠ b.token ∨ b.isLoading = false)
    (result : Except LoadError TaskSnapshot) :
    b.applySnapshot token' result = (b, [], false) := by
  simp only [applySnapshot]
  rw [if_pos (by simpa using h)]

/-- A load that is refused changes nothing. -/
theorem applySnapshot_of_false {b : DetailBinder} {token' : MountToken}
    {result : Except LoadError TaskSnapshot} (h : (b.applySnapshot token' result).2.2 = false) :
    b.applySnapshot token' result = (b, [], false) := by
  simp only [applySnapshot] at h ⊢
  split at h
  next hrefused => rw [if_pos hrefused]
  next => simp at h

theorem applySnapshot_error (e : LoadError) :
    (mount id token baseUrl).applySnapshot token (.error e) =
      ({ mount id token baseUrl with phase := .failed e }, [], true) := by
  simp [applySnapshot, mount, isLoading, evaluate, streamEnabled, timeline?]

theorem applySnapshot_finished {snapshot : TaskSnapshot} (h : snapshot.task.isTerminal = true) :
    (mount id token baseUrl).applySnapshot token (.ok snapshot) =
      ({ mount id token baseUrl with phase := .loaded (.ofSnapshot snapshot) }, [], true) := by
  have hended : (Timeline.ofSnapshot snapshot).isTerminal = true := h
  simp [applySnapshot, mount, isLoading, evaluate, streamEnabled, timeline?, hended]

/-! ## Signals and the end -/

theorem receive_of_idle {b : DetailBinder} (h : b.isStreaming = false) (answer : Option Signal) :
    b.receive answer = (b, []) := by
  cases hstream : b.stream with
  | none => simp [receive, hstream]
  | some m =>
      have hlive : m.isLive = false := by simpa [isStreaming, hstream] using h
      simp [receive, hstream, hlive]

@[simp] theorem disposed_dispose (b : DetailBinder) : b.dispose.1.disposed = true := by
  unfold dispose
  split
  · assumption
  · dsimp only
    split <;> rfl

theorem dispose_of_disposed {b : DetailBinder} (h : b.disposed = true) : b.dispose = (b, []) := by
  simp [dispose, h]

/-- A view that is disposed of keeps its stream, which then holds nothing. -/
theorem dispose_of_stream {b : DetailBinder} {m : StreamManager Unit}
    (hmounted : b.disposed = false) (hstream : b.stream = some m)
    (h : m.isLive = true → m.key ≠ some (some b.taskId, false)) :
    b.dispose.1.isStreaming = false ∧ b.dispose.1.stream.isSome = true ∧
      b.dispose.2 = m.teardown.2 := by
  obtain ⟨taskId, token, phase, stream, baseUrl, disposed⟩ := b
  subst hmounted hstream
  obtain ⟨hidle, hasked⟩ := StreamManager.update_false (m := { m with slot := m.slot.clear }) h
  rw [StreamManager.teardown_snd_with_slot] at hasked
  exact ⟨hidle, rfl, hasked⟩

theorem dispose_following {t : Timeline} {status : StreamStatus} {changes : Nat} :
    let done := (following id token baseUrl t status changes).dispose
    done.1.isStreaming = false ∧ done.1.stream.isSome = true ∧ done.2 = [.close] := by
  apply dispose_of_stream (m := openStream id baseUrl status changes) rfl rfl
  simp [openStream]

theorem dispose_stopped {t : Timeline} {status : StreamStatus} {changes : Nat} {wanted : Bool} :
    let done := (stopped id token baseUrl t status changes wanted).dispose
    done.1.isStreaming = false ∧ done.1.stream.isSome = true ∧ done.2 = [] := by
  apply dispose_of_stream (b := stopped id token baseUrl t status changes wanted) rfl rfl
  simp [StreamManager.isLive]

namespace Stage

variable {taken : List Load} {asked : List ChannelRequest} {b : DetailBinder}

theorem eq_mount (h : Stage id token baseUrl [] asked b) (hmounted : b.disposed = false) :
    asked = [] ∧ b = mount id token baseUrl := by
  cases h with
  | waiting => exact ⟨rfl, rfl⟩
  | disposed hdisposed => simp [hmounted] at hdisposed

theorem refuses (h : Stage id token baseUrl taken asked b) {token' : MountToken}
    (hrefused : token' ≠ token ∨ taken ≠ [] ∨ b.disposed = true)
    (result : Except LoadError TaskSnapshot) :
    b.applySnapshot token' result = (b, [], false) := by
  apply applySnapshot_refused
  cases h with
  | waiting =>
      rcases hrefused with htoken | htaken | hdisposed
      · exact .inr (.inl htoken)
      · exact absurd rfl htaken
      · simp [mount] at hdisposed
  | failed e => exact .inr (.inr rfl)
  | finished => exact .inr (.inr rfl)
  | following => exact .inr (.inr rfl)
  | stopped => exact .inr (.inr rfl)
  | disposed hdisposed => exact .inl hdisposed

theorem takes_iff (h : Stage id token baseUrl taken asked b) {token' : MountToken}
    {result : Except LoadError TaskSnapshot} :
    (b.applySnapshot token' result).2.2 = true ↔
      token' = token ∧ taken = [] ∧ b.disposed = false := by
  by_cases hrefused : token' ≠ token ∨ taken ≠ [] ∨ b.disposed = true
  · rw [h.refuses hrefused result]
    simpa [Classical.or_iff_not_imp_left] using hrefused
  · simp only [not_or, not_not, Bool.not_eq_true] at hrefused
    obtain ⟨rfl, rfl, hmounted⟩ := hrefused
    obtain ⟨rfl, rfl⟩ := h.eq_mount hmounted
    simp [applySnapshot, mount, isLoading]

theorem apply (h : Stage id token baseUrl taken asked b) (token' : MountToken)
    (result : Except LoadError TaskSnapshot) :
    Stage id token baseUrl
      (taken ++ if (b.applySnapshot token' result).2.2 then [(token', result)] else [])
      (asked ++ (b.applySnapshot token' result).2.1) (b.applySnapshot token' result).1 := by
  by_cases hrefused : token' ≠ token ∨ taken ≠ [] ∨ b.disposed = true
  · simpa [h.refuses hrefused result] using h
  · simp only [not_or, not_not, Bool.not_eq_true] at hrefused
    obtain ⟨rfl, rfl, hmounted⟩ := hrefused
    obtain ⟨rfl, rfl⟩ := h.eq_mount hmounted
    cases result with
    | error e => simpa [applySnapshot_error] using Stage.failed e
    | ok snapshot =>
        cases hterminal : snapshot.task.isTerminal with
        | true => simpa [applySnapshot_finished hterminal] using Stage.finished hterminal
        | false =>
            have hrun : (Timeline.ofSnapshot snapshot).isTerminal = false := hterminal
            rw [applySnapshot_mount hterminal]
            exact .following hterminal hrun (by simp) 1

theorem receive (h : Stage id token baseUrl taken asked b) (answer : Option Signal) :
    Stage id token baseUrl taken (asked ++ (b.receive answer).2) (b.receive answer).1 := by
  cases h with
  | waiting => exact .waiting
  | failed e => exact .failed e
  | finished h => exact .finished h
  | @following snapshot h t hrun status hstatus changes =>
      cases answer with
      | none =>
          obtain ⟨changes', wanted, hreceive⟩ :=
            receive_end id token baseUrl status changes (t := t)
          rw [hreceive]
          exact .stopped h (.inr rfl) changes' wanted
      | some s =>
          by_cases hs : s.Stops t
          · obtain ⟨changes', wanted, hreceive⟩ :=
              receive_of_stops id token baseUrl status changes hrun hstatus hs
            rw [hreceive]
            exact .stopped h (hs.ended_or_closed hrun) changes' wanted
          · obtain ⟨hrun', changes', hreceive⟩ :=
              receive_of_not_stops id token baseUrl status changes hrun hs
            rw [hreceive]
            exact .following h hrun' (Signal.statusAfter_ne_closed hstatus s) changes'
  | stopped h hstop changes wanted =>
      rw [receive_stopped, List.append_nil]
      exact .stopped h hstop changes wanted
  | disposed hdisposed hidle hlength htoken hstream hasked =>
      rw [receive_of_idle hidle, List.append_nil]
      exact .disposed hdisposed hidle hlength htoken hstream hasked

theorem dispose (h : Stage id token baseUrl taken asked b) :
    Stage id token baseUrl taken (asked ++ b.dispose.2) b.dispose.1 := by
  cases h with
  | waiting => exact .disposed rfl rfl (by simp) (by simp) rfl rfl
  | failed e => exact .disposed rfl rfl (by simp) (by simp) rfl rfl
  | finished h => exact .disposed rfl rfl (by simp) (by simp) (by simp [h]; rfl) (by simp [h]; rfl)
  | following h hrun hstatus changes =>
      obtain ⟨hidle, hstream, hasked⟩ := dispose_following
      exact .disposed (by simp) hidle (by simp) (by simp) (by simp [hstream, h])
        (by simp [hasked, h])
  | stopped h hstop changes wanted =>
      obtain ⟨hidle, hstream, hasked⟩ := dispose_stopped
      exact .disposed (by simp) hidle (by simp) (by simp) (by simp [hstream, h])
        (by simp [hasked, h])
  | disposed hdisposed hidle hlength htoken hstream hasked =>
      rw [dispose_of_disposed hdisposed, List.append_nil]
      exact .disposed hdisposed hidle hlength htoken hstream hasked

/-! ### What a stage tells -/

theorem length_taken (h : Stage id token baseUrl taken asked b) : taken.length ≤ 1 := by
  cases h with
  | disposed _ _ hlength => exact hlength
  | _ => simp

theorem token_eq (h : Stage id token baseUrl taken asked b) : ∀ l ∈ taken, l.1 = token := by
  cases h with
  | disposed _ _ _ htoken => exact htoken
  | _ => simp

theorem isSome_stream (h : Stage id token baseUrl taken asked b) :
    b.stream.isSome = taken.any Load.isRunning := by
  cases h with
  | disposed _ _ _ _ hstream => exact hstream
  | finished h => simp [mount, h]
  | following h => simp [DetailBinder.following, h]
  | stopped h => simp [DetailBinder.stopped, h]
  | _ => simp [mount]

theorem opened_eq (h : Stage id token baseUrl taken asked b) :
    opened asked = if taken.any Load.isRunning then 1 else 0 := by
  cases h with
  | disposed _ _ _ _ _ hasked =>
      rw [hasked]
      split <;> rfl
  | finished h => simp [opened, h]
  | following h => simp [opened, ChannelRequest.isOpen, h]
  | stopped h => simp [opened, ChannelRequest.isOpen, List.countP_cons, h]
  | _ => simp [opened]

theorem url_eq (h : Stage id token baseUrl taken asked b) {url : String}
    (hurl : .open url ∈ asked) : url = eventsUrl id baseUrl := by
  have hone : asked ⊆ [.open (eventsUrl id baseUrl), .close] := by
    cases h with
    | disposed _ _ _ _ _ hasked =>
        rw [hasked]
        split <;> simp
    | _ => simp
  simpa using hone hurl

theorem orderly (h : Stage id token baseUrl taken asked b) : Orderly asked b.heldUrl := by
  cases h with
  | following => exact Orderly.nothing.opened
  | stopped => exact Orderly.nothing.opened.closed
  | disposed _ hidle _ _ _ hasked =>
      have hnone : b.heldUrl = none := by
        rwa [← isSome_heldUrl, Option.isSome_eq_false_iff, Option.isNone_iff_eq_none] at hidle
      rw [hnone, hasked]
      split
      · exact Orderly.nothing.opened.closed
      · exact .nothing
  | _ => exact .nothing

theorem eq_following (h : Stage id token baseUrl taken asked b) (hlive : b.isStreaming = true) :
    ∃ t status changes, t.isTerminal = false ∧
      b = DetailBinder.following id token baseUrl t status changes := by
  cases h with
  | @following snapshot h t hrun status hstatus changes => exact ⟨t, status, changes, hrun, rfl⟩
  | disposed _ hidle => simp [hidle] at hlive
  | _ => simp [isStreaming, mount, DetailBinder.stopped, StreamManager.isLive] at hlive

theorem live (h : Stage id token baseUrl taken asked b) (hlive : b.isStreaming = true) :
    b.disposed = false ∧ ∃ t, b.phase = .loaded t ∧ t.isTerminal = false := by
  obtain ⟨t, status, changes, hrun, rfl⟩ := h.eq_following hlive
  exact ⟨rfl, t, rfl, hrun⟩

theorem idle_of_disposed (h : Stage id token baseUrl taken asked b)
    (hdisposed : b.disposed = true) : b.isStreaming = false := by
  by_contra hlive
  simp [(h.live (by simpa using hlive)).1] at hdisposed

theorem idle_of_disabled (h : Stage id token baseUrl taken asked b)
    (hdisabled : b.streamEnabled = false) : b.isStreaming = false := by
  by_contra hlive
  obtain ⟨hmounted, t, hphase, hrun⟩ := h.live (by simpa using hlive)
  simp [streamEnabled, hmounted, timeline?, hphase, hrun] at hdisabled

theorem streaming_or_closed (h : Stage id token baseUrl taken asked b)
    (henabled : b.streamEnabled = true) :
    b.isStreaming = true ∨ ∃ m, b.stream = some m ∧ m.status = .closed := by
  cases h with
  | following => exact .inl rfl
  | stopped h hstop =>
      rcases hstop with hended | rfl
      · simp [streamEnabled, DetailBinder.stopped, DetailBinder.following, timeline?, hended]
          at henabled
      · exact .inr ⟨_, rfl, rfl⟩
  | finished h =>
      have hended : (Timeline.ofSnapshot _).isTerminal = true := h
      simp [streamEnabled, mount, timeline?, hended] at henabled
  | disposed hdisposed => simp [streamEnabled, hdisposed] at henabled
  | _ => simp [streamEnabled, mount, timeline?] at henabled

end Stage

/-! ## Whole lives -/

structure History.Staged (id : TaskId) (token : MountToken) (baseUrl : String)
    (ops : List Operation) (h : History) : Prop where
  stage : Stage id token baseUrl h.taken h.requests h.binder
  disposed : h.binder.disposed = ops.any Operation.ends
  dropped : h.dropped = true → h.binder.disposed = true

namespace History.Staged

variable {ops : List Operation} {h : History}

theorem received (hs : h.Staged id token baseUrl ops) (hkept : h.dropped = false)
    {op : Operation} (hop : op.ends = false) (answer : Option Signal) :
    (h.note (h.binder.receive answer)).Staged id token baseUrl (ops ++ [op]) := by
  refine ⟨hs.stage.receive answer, ?_, by simp [hkept]⟩
  simpa [hop, hs.disposed] using (goesOn_receive h.binder answer).disposed

theorem perform (hs : h.Staged id token baseUrl ops) (op : Operation) :
    (h.perform op).Staged id token baseUrl (ops ++ [op]) := by
  cases hdropped : h.dropped with
  | true =>
      have hends : ops.any Operation.ends = true := hs.disposed ▸ hs.dropped hdropped
      rw [perform_of_dropped hdropped]
      exact ⟨hs.stage, by simp [hs.disposed, hends], hs.dropped⟩
  | false =>
      simp only [History.perform, hdropped]
      cases op with
      | apply token' result =>
          refine ⟨hs.stage.apply token' result, ?_, by simp [hdropped]⟩
          simpa [Operation.ends, hs.disposed] using
            (goesOn_applySnapshot h.binder token' result).disposed
      | next answer =>
          cases answer with
          | signal s => exact hs.received hdropped rfl (some s)
          | ended => exact hs.received hdropped rfl none
          | pending => exact ⟨hs.stage, by simp [Operation.ends, hs.disposed], by simp [hdropped]⟩
      | dispose => exact ⟨hs.stage.dispose, by simp [Operation.ends], by simp⟩
      | drop => exact ⟨hs.stage.dispose, by simp [Operation.ends], by simp⟩

theorem performAll (hs : h.Staged id token baseUrl ops) (more : List Operation) :
    (h.performAll more).Staged id token baseUrl (ops ++ more) := by
  induction more generalizing h ops with
  | nil => simpa [History.performAll] using hs
  | cons op more ih => simpa [History.performAll] using ih (hs.perform op)

theorem kept (hs : h.Staged id token baseUrl ops) (hlive : h.binder.isStreaming = true) :
    h.dropped = false := by
  by_contra hdropped
  have hdisposed := hs.dropped (by simpa using hdropped)
  simp [(hs.stage.live hlive).1] at hdisposed

/-- A view that waits for nothing stays as it is until it is disposed of. -/
theorem perform_of_idle (hs : h.Staged id token baseUrl ops) (hidle : h.binder.isStreaming = false)
    (hloaded : h.taken ≠ [] ∨ h.binder.disposed = true) {op : Operation}
    (hop : op.ends = false ∨ h.binder.disposed = true) :
    ∃ dropped, h.perform op = { h with dropped := dropped } := by
  cases hdropped : h.dropped with
  | true => exact ⟨h.dropped, perform_of_dropped hdropped op⟩
  | false =>
      simp only [History.perform, hdropped]
      cases op with
      | apply token' result =>
          refine ⟨h.dropped, ?_⟩
          simp [hs.stage.refuses (.inr hloaded) result, note]
      | next answer =>
          refine ⟨h.dropped, ?_⟩
          cases answer <;> simp [receive_of_idle hidle, note]
      | dispose =>
          have hdisposed : h.binder.disposed = true := by simpa [Operation.ends] using hop
          exact ⟨h.dropped, by simp [dispose_of_disposed hdisposed, note]⟩
      | drop =>
          have hdisposed : h.binder.disposed = true := by simpa [Operation.ends] using hop
          exact ⟨true, by simp [dispose_of_disposed hdisposed, note]⟩

theorem performAll_of_disposed (hs : h.Staged id token baseUrl ops)
    (hdisposed : h.binder.disposed = true) (more : List Operation) :
    ∃ dropped, h.performAll more = { h with dropped := dropped } := by
  induction more generalizing h ops with
  | nil => exact ⟨h.dropped, rfl⟩
  | cons op more ih =>
      have hop : op.ends = false ∨ h.binder.disposed = true := .inr hdisposed
      obtain ⟨dropped, hperform⟩ :=
        hs.perform_of_idle (hs.stage.idle_of_disposed hdisposed) (.inr hdisposed) hop
      have hs' := hs.perform op
      rw [hperform] at hs'
      obtain ⟨dropped', hmore⟩ := ih hs' hdisposed
      refine ⟨dropped', ?_⟩
      rw [show h.performAll (op :: more) = (h.perform op).performAll more from rfl, hperform, hmore]

/-- A stream that is not wanted after the load will not be wanted. -/
theorem performAll_of_disabled (hs : h.Staged id token baseUrl ops)
    (hloaded : h.taken ≠ [] ∨ h.binder.disposed = true)
    (hdisabled : h.binder.streamEnabled = false) (more : List Operation) :
    (h.performAll more).binder.streamEnabled = false := by
  induction more generalizing h ops with
  | nil => exact hdisabled
  | cons op more ih =>
      have hs' := hs.perform op
      -- Only the end of the view still changes it, and then nothing is wanted.
      by_cases hop : op.ends = false ∨ h.binder.disposed = true
      · obtain ⟨dropped, hperform⟩ :=
          hs.perform_of_idle (hs.stage.idle_of_disabled hdisabled) hloaded hop
        have hsame : (h.perform op).taken = h.taken ∧ (h.perform op).binder = h.binder := by
          simp [hperform]
        exact ih hs' (by rwa [hsame.1, hsame.2]) (by rwa [hsame.2])
      · have hdisposed : (h.perform op).binder.disposed = true := by
          simp only [not_or, Bool.not_eq_false] at hop
          simp [hs'.disposed, hop.1]
        exact ih hs' (.inr hdisposed) (by simp [streamEnabled, hdisposed])

end History.Staged

theorem staged_run (id : TaskId) (token : MountToken) (baseUrl : String) (ops : List Operation) :
    (run id token baseUrl ops).Staged id token baseUrl ops := by
  have hstart : History.Staged id token baseUrl [] ⟨mount id token baseUrl, [], [], false⟩ :=
    ⟨.waiting, rfl, by simp⟩
  exact hstart.performAll ops

/-- What holds of a view at every point of its life. -/
structure Lifecycle (id : TaskId) (token : MountToken) (baseUrl : String) (ops : List Operation)
    (h : History) : Prop where
  disposed : h.binder.disposed = ops.any Operation.ends
  once : h.taken.length ≤ 1
  own : ∀ l ∈ h.taken, l.1 = token
  /-- The next load is taken if it is the view's own and the first, and the view is there. -/
  taken : ∀ token' result, (h.binder.applySnapshot token' result).2.2 = true ↔
    token' = token ∧ h.taken = [] ∧ ops.any Operation.ends = false
  refused : ∀ token' result, (h.binder.applySnapshot token' result).2.2 = false →
    h.binder.applySnapshot token' result = (h.binder, [], false)
  stream : h.binder.stream.isSome = h.taken.any Load.isRunning
  opened : opened h.requests = if h.taken.any Load.isRunning then 1 else 0
  url : ∀ url, .open url ∈ h.requests → url = eventsUrl id baseUrl
  orderly : Orderly h.requests h.binder.heldUrl
  live : h.binder.isStreaming = true →
    ops.any Operation.ends = false ∧ ∃ t, h.binder.phase = .loaded t ∧ t.isTerminal = false
  enabled : h.binder.streamEnabled = true →
    h.binder.isStreaming = true ∨ ∃ m, h.binder.stream = some m ∧ m.status = .closed
  /-- Once it is not wanted after the load, the stream stays so. -/
  disabled : h.taken ≠ [] → h.binder.streamEnabled = false →
    ∀ more, (h.performAll more).binder.streamEnabled = false
  ended : ops.any Operation.ends = true →
    ChannelRequest.opened h.requests = closed h.requests ∧ h.binder.isStreaming = false ∧
    ∀ more, (h.performAll more).binder = h.binder ∧ (h.performAll more).requests = h.requests

/-- The life of a view, whatever is done to it and in whatever order. -/
theorem lifecycle_run (id : TaskId) (token : MountToken) (baseUrl : String)
    (ops : List Operation) :
    Lifecycle id token baseUrl ops (run id token baseUrl ops) := by
  have hs := staged_run id token baseUrl ops
  have hdisposed := hs.disposed
  refine
    { disposed := hdisposed
      once := hs.stage.length_taken
      own := hs.stage.token_eq
      taken := ?_
      refused := fun _ _ => applySnapshot_of_false
      stream := hs.stage.isSome_stream
      opened := hs.stage.opened_eq
      url := fun _ => hs.stage.url_eq
      orderly := hs.stage.orderly
      live := ?_
      enabled := hs.stage.streaming_or_closed
      disabled := fun htaken hdisabled => hs.performAll_of_disabled (.inl htaken) hdisabled
      ended := ?_ }
  · intro token' result
    rw [hs.stage.takes_iff, hdisposed]
  · rw [← hdisposed]
    exact hs.stage.live
  · intro hends
    rw [← hdisposed] at hends
    have hidle := hs.stage.idle_of_disposed hends
    refine ⟨?_, hidle, ?_⟩
    · simpa [hidle] using hs.stage.orderly.opened_eq
    · intro more
      obtain ⟨dropped, hmore⟩ := hs.performAll_of_disposed hends more
      simp [hmore]

end DetailBinder

end TaskMonitor
