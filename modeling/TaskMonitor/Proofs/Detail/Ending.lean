import TaskMonitor.Proofs.Detail.Provenance
import TaskMonitor.Proofs.Timeline.Convergence

/-! # Whether a view shows that its task has ended

The gateway says in a snapshot whether the task has ended. After that only the events that are
pushed end it: the ones that were loaded are listed, and not followed. -/

namespace TaskMonitor

/-! ## Transitions that end a task -/

namespace TaskEvent

/-- The event is a transition to a status that ends the task. -/
def EndsTask (e : TaskEvent) : Prop :=
  e.type = .stateTransition ∧
    ∃ s : TaskStatus, e.payload.lookup "to_status" = some (.text s.name) ∧ s.isTerminal = true

theorem endsTask_iff {e : TaskEvent} : e.EndsTask ↔ e.target.any (·.isTerminal) = true := by
  constructor
  · rintro ⟨htype, s, hs, hterminal⟩
    rw [target_eq_some_iff.mpr ⟨htype, hs⟩]
    exact hterminal
  · intro h
    obtain ⟨s, hs, hterminal⟩ := (Option.any_eq_true _ _).mp h
    obtain ⟨htype, hpayload⟩ := target_eq_some_iff.mp hs
    exact ⟨htype, s, hpayload, hterminal⟩

end TaskEvent

theorem TaskStatus.isTerminal_settled (s : TaskStatus) (targets : List TaskStatus) :
    (s.settled targets).isTerminal = (s.isTerminal || targets.any (·.isTerminal)) := by
  rw [← foldl_follow]
  induction targets generalizing s with
  | nil => simp
  | cons target targets ih =>
      rw [List.foldl_cons, ih, follow]
      cases hs : s.isTerminal <;> simp [hs]

/-! ## Timelines -/

namespace Timeline

theorem events_applyAll_accepted {t : Timeline} (h : t.IsIndexed) (es : List Envelope) :
    (t.applyAll es).events = t.events ++ t.accepted es := by
  induction es generalizing t with
  | nil => simp
  | cons e es ih =>
      rw [applyAll_cons, ih (h.apply e), accepted_cons]
      split
      next hacc => rw [events_apply_of_accepts h hacc, List.append_assoc]
      next hrefused => rw [apply_of_not_accepts hrefused, List.nil_append]

theorem exists_of_mem_accepted {t : Timeline} {es : List Envelope} {event : TaskEvent}
    (h : event ∈ t.accepted es) : ∃ e ∈ es, e.event = event ∧ e.taskId = t.task.id := by
  induction es generalizing t with
  | nil => simp at h
  | cons e es ih =>
      rw [accepted_cons, List.mem_append] at h
      rcases h with h | h
      · split at h
        next hacc => exact ⟨e, List.mem_cons_self, (List.mem_singleton.mp h).symm, hacc.1⟩
        next => simp at h
      · obtain ⟨e', he', hevent, htask⟩ := ih h
        exact ⟨e', List.mem_cons_of_mem e he', hevent, htask.trans (t.apply_task_id e)⟩

theorem isTerminal_applyAll (t : Timeline) (es : List Envelope) :
    (t.applyAll es).isTerminal = true ↔
      t.isTerminal = true ∨ ∃ e ∈ t.accepted es, e.EndsTask := by
  have hstatus : (t.applyAll es).isTerminal = (t.applyAll es).status.isTerminal := rfl
  rw [hstatus, status_applyAll, TaskStatus.isTerminal_settled, targets, List.any_filterMap,
    Bool.or_eq_true, List.any_eq_true]
  refine or_congr_right (exists_congr fun e => and_congr_right fun _ => ?_)
  rw [TaskEvent.endsTask_iff]
  cases e.target <;> simp

end Timeline

namespace DetailBinder

/-! ## Whole lives -/

/-- What is known of the task is its snapshot, and then envelopes that were sent. -/
inductive Folded (sent : List Envelope) : List Load → DetailPhase → Prop where
  | waiting : Folded sent [] .loading
  | failed (token : MountToken) (e : LoadError) : Folded sent [(token, .error e)] (.failed e)
  | loaded (token : MountToken) (snapshot : TaskSnapshot) {es : List Envelope} (hes : es ⊆ sent) :
      Folded sent [(token, .ok snapshot)] (.loaded ((Timeline.ofSnapshot snapshot).applyAll es))

theorem folded_run (id : TaskId) (token : MountToken) (baseUrl : String) (ops : List Operation) :
    Folded (ops.filterMap Operation.envelope?) (run id token baseUrl ops).taken
      (run id token baseUrl ops).binder.phase := by
  have hkept : Kept Folded :=
    { start := .waiting
      more := ?_
      failed := fun token e _ => .failed token e
      loaded := fun token snapshot _ => .loaded token snapshot (List.nil_subset _)
      envelope := ?_ }
  · exact hkept.run id token baseUrl ops
  · intro sent taken phase more h
    cases h with
    | waiting => exact .waiting
    | failed token e => exact .failed token e
    | loaded token snapshot hes =>
        exact .loaded token snapshot (List.Subset.trans hes (List.subset_append_left sent more))
  · intro sent taken t e he h
    cases h with
    | @loaded token snapshot es hes =>
        have hfold : (Timeline.ofSnapshot snapshot).applyAll (es ++ [e]) =
            (((Timeline.ofSnapshot snapshot).applyAll es).apply e).1 := List.foldl_append
        rw [← hfold]
        exact .loaded token snapshot (List.append_subset.mpr ⟨hes, by simpa using he⟩)

/-- What a view tells of the end of the task that it shows. -/
structure Verdict (sent : List Envelope) (disposed : Bool) (snapshot : TaskSnapshot)
    (gained : List TaskEvent) (task : Task) (v : DetailView) : Prop where
  events : v.events = firstOfEach snapshot.events ++ gained
  pushed : ∀ event ∈ gained, ∃ e ∈ sent, e.event = event ∧ e.taskId = task.id
  /-- The task has ended if the gateway said so, or an event that was pushed since. -/
  ended : task.isTerminal = true ↔
    snapshot.task.isTerminal = true ∨ ∃ event ∈ gained, event.EndsTask
  enabled : v.streamEnabled = true ↔ disposed = false ∧ task.isTerminal = false
  /-- No transition contradicts the status, except one that was loaded together with the status of
  a task that runs. -/
  lawful : ∀ event ∈ v.events, event.EndsTask →
    event ∈ gained ∨ snapshot.task.isTerminal = true →
      task.isTerminal = true ∧ v.streamEnabled = false

theorem Verdict.of_ended {sent : List Envelope} {disposed : Bool} {snapshot : TaskSnapshot}
    {gained : List TaskEvent} {task : Task} {v : DetailView}
    (events : v.events = firstOfEach snapshot.events ++ gained)
    (pushed : ∀ event ∈ gained, ∃ e ∈ sent, e.event = event ∧ e.taskId = task.id)
    (ended : task.isTerminal = true ↔
      snapshot.task.isTerminal = true ∨ ∃ event ∈ gained, event.EndsTask)
    (enabled : v.streamEnabled = (!disposed && !task.isTerminal)) :
    Verdict sent disposed snapshot gained task v where
  events := events
  pushed := pushed
  ended := ended
  enabled := by simp [enabled]
  lawful event _ hends htold := by
    have hended : task.isTerminal = true := by
      rw [ended]
      rcases htold with hgained | hloaded
      · exact .inr ⟨event, hgained, hends⟩
      · exact .inl hloaded
    exact ⟨hended, by simp [enabled, hended]⟩

/-- What a view tells of the end of its task, at any point of its life. -/
structure TellsEnd (token : MountToken) (ops : List Operation) (h : History) : Prop where
  shown : ∀ task, h.binder.view.task = some task → ∃ snapshot gained,
    h.taken = [(token, .ok snapshot)] ∧
    Verdict (ops.filterMap Operation.envelope?) (ops.any Operation.ends) snapshot gained task
      h.binder.view
  empty : h.binder.view.task = none →
    h.binder.view.events = [] ∧ h.binder.view.streamEnabled = false

/-- Whatever was loaded, and whatever is done to a view, it shows that its task has ended if the
snapshot said so or a transition was pushed that ends it, and in no other case. -/
theorem tellsEnd_run (id : TaskId) (token : MountToken) (baseUrl : String)
    (ops : List Operation) : TellsEnd token ops (run id token baseUrl ops) := by
  have hfolded := folded_run id token baseUrl ops
  have hs := staged_run id token baseUrl ops
  have htoken := hs.stage.token_eq
  have hdisposed := hs.disposed
  generalize run id token baseUrl ops = h at hfolded htoken hdisposed
  obtain ⟨⟨taskId, token', phase, stream, url, disposed⟩, requests, taken, dropped⟩ := h
  obtain rfl : disposed = ops.any Operation.ends := hdisposed
  cases hfolded with
  | waiting => exact ⟨by simp [view, timeline?], fun _ => ⟨rfl, Bool.and_false _⟩⟩
  | failed loadToken e => exact ⟨by simp [view, timeline?], fun _ => ⟨rfl, Bool.and_false _⟩⟩
  | @loaded loadToken snapshot es hes =>
      obtain rfl : loadToken = token := htoken _ (List.mem_singleton_self _)
      refine ⟨?_, by simp [view, timeline?]⟩
      rintro _ ⟨⟩
      let loaded := Timeline.ofSnapshot snapshot
      refine ⟨snapshot, loaded.accepted es, rfl, .of_ended ?_ ?_ ?_ ?_⟩
      · have hfirst : loaded.events = firstOfEach snapshot.events :=
          (Timeline.firsts_empty snapshot.events).1
        rw [← hfirst]
        exact Timeline.events_applyAll_accepted (Timeline.isIndexed_ofSnapshot snapshot) es
      · intro event hevent
        obtain ⟨e, he, hsame, htask⟩ := Timeline.exists_of_mem_accepted hevent
        exact ⟨e, hes he, hsame, htask.trans (loaded.applyAll_task_id es).symm⟩
      · exact loaded.isTerminal_applyAll es
      · rfl

open DetailSession (runningSnapshot)

/-- The gateway read the task before its events, and the task ended in between. -/
def staleSnapshot : TaskSnapshot :=
  { runningSnapshot ⟨"t1"⟩ with events := [Timeline.failing] }

/-- The transition that ended the task is listed, and the task is shown as running. -/
theorem stale_status_shown :
    let v := (run ⟨"t1"⟩ ⟨0⟩ "http://gw" [.apply ⟨0⟩ (.ok staleSnapshot)]).binder.view
    v.loading = false ∧ (∃ event ∈ v.events, event.EndsTask) ∧
      (∃ task, v.task = some task ∧ task.isTerminal = false) ∧ v.streamEnabled = true := by
  intro v
  have hevents : v.events = firstOfEach [Timeline.failing] :=
    (Timeline.firsts_empty staleSnapshot.events).1
  refine ⟨rfl, ⟨Timeline.failing, ?_, rfl, .failed, rfl, rfl⟩, ⟨_, rfl, rfl⟩, rfl⟩
  rw [hevents, firstOfEach_of_nodup (by decide)]
  exact List.mem_singleton_self _

end DetailBinder

end TaskMonitor
