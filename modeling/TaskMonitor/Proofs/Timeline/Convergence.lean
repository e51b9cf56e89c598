import TaskMonitor.Proofs.Timeline.Statuses

/-! # Snapshot and stream converge

Wherever the log of a task is cut, a timeline that loads what was before the cut, and is sent what
came after it, becomes the timeline of the whole log. -/

namespace TaskMonitor

/-- A task after the events of a log: they are listed, and the status has followed them. -/
def TaskSnapshot.afterLog (task : Task) (artifacts : List Artifact) (log : List TaskEvent) :
    TaskSnapshot where
  task := { task with
    status := (log.filterMap TaskEvent.target).foldl TaskStatus.follow task.status }
  events := log
  artifacts := artifacts

/-- Envelopes bring the task further events, in their order. Those that are known by then may come
again, and envelopes of other tasks may come in between. -/
inductive Delivers (id : TaskId) : List TaskEvent → List TaskEvent → List Envelope → Prop where
  | nothing (known : List TaskEvent) : Delivers id known [] []
  | next {known rest : List TaskEvent} {event : TaskEvent} {es : List Envelope} (final : Bool) :
      Delivers id (known ++ [event]) rest es →
      Delivers id known (event :: rest) (⟨event, id, final⟩ :: es)
  | again {known rest : List TaskEvent} {e : Envelope} {es : List Envelope} :
      e.event.id ∈ known.map (·.id) → Delivers id known rest es →
      Delivers id known rest (e :: es)
  | stray {known rest : List TaskEvent} {e : Envelope} {es : List Envelope} :
      e.taskId ≠ id → Delivers id known rest es → Delivers id known rest (e :: es)

theorem firstOfEach_of_nodup {events : List TaskEvent} (h : (events.map (·.id)).Nodup) :
    firstOfEach events = events := by
  induction events with
  | nil => rfl
  | cons e events ih =>
      obtain ⟨hnew, hrest⟩ := List.nodup_cons.mp (List.map_cons ▸ h)
      have hkeep : events.filter (·.id ≠ e.id) = events := by
        apply List.filter_eq_self.mpr
        intro x hx
        have hid : x.id ∈ events.map (·.id) := List.mem_map_of_mem hx
        simpa using ne_of_mem_of_not_mem hid hnew
      rw [firstOfEach_cons, hkeep, ih hrest]

namespace Timeline

structure Shows (t : Timeline) (s : TaskSnapshot) : Prop where
  task : t.task = s.task
  events : t.events = s.events
  artifacts : t.artifacts = s.artifacts
  indexed : t.IsIndexed

theorem shows_ofSnapshot {s : TaskSnapshot} (h : (s.events.map (·.id)).Nodup) :
    (ofSnapshot s).Shows s where
  task := rfl
  events := (firsts_empty s.events).1.trans (firstOfEach_of_nodup h)
  artifacts := rfl
  indexed := isIndexed_ofSnapshot s

namespace Shows

variable {t t' : Timeline} {task : Task} {artifacts : List Artifact}
  {known rest : List TaskEvent} {e : Envelope}

theorem contains_eq {s : TaskSnapshot} (h : t.Shows s) (h' : t'.Shows s) (id : EventId) :
    t.contains id = t'.contains id := by
  rw [Bool.eq_iff_iff, h.indexed.contains, h'.indexed.contains, h.events, h'.events]

theorem accepts_iff (h : t.Shows (.afterLog task artifacts known)) :
    t.Accepts e ↔ e.taskId = task.id ∧ e.event.id ∉ known.map (·.id) := by
  have hcontains : t.contains e.event.id = true ↔ e.event.id ∈ known.map (·.id) := by
    rw [h.indexed.contains, h.events]
    rfl
  rw [Accepts, h.task, ← hcontains, Bool.not_eq_true]
  rfl

theorem next (h : t.Shows (.afterLog task artifacts known)) (htask : e.taskId = task.id)
    (hnew : e.event.id ∉ known.map (·.id)) :
    (t.apply e).1.Shows (.afterLog task artifacts (known ++ [e.event])) := by
  have hacc : t.Accepts e := h.accepts_iff.mpr ⟨htask, hnew⟩
  refine ⟨?_, ?_, ?_, h.indexed.apply e⟩
  · rw [apply_of_accepts hacc, statusAfter_eq_foldl, status, h.task]
    simp only [TaskSnapshot.afterLog, List.filterMap_append, List.foldl_append, Envelope.target]
    cases htarget : e.event.target <;> simp [htarget]
  · rw [events_apply_of_accepts h.indexed hacc, h.events]
    rfl
  · rw [apply_artifacts, h.artifacts]
    rfl

/-- A delivery of the rest of the log brings the timeline to its end. The induction is on the
delivery; the timeline always shows the task after the events that are known. -/
theorem applyAll {es : List Envelope} (hes : Delivers task.id known rest es)
    (h : t.Shows (.afterLog task artifacts known)) (hlog : ((known ++ rest).map (·.id)).Nodup) :
    (t.applyAll es).Shows (.afterLog task artifacts (known ++ rest)) := by
  induction hes generalizing t with
  | nothing known => simpa using h
  | @next known rest event es final _ ih =>
      have hnew : event.id ∉ known.map (·.id) := by
        rw [List.map_append, List.nodup_append] at hlog
        intro hknown
        exact hlog.2.2 _ hknown _ (by simp) rfl
      rw [applyAll_cons, List.append_cons]
      apply ih (h.next rfl hnew)
      rwa [← List.append_cons]
  | again hknown _ ih =>
      have hrefused : ¬ t.Accepts _ := fun hacc => (h.accepts_iff.mp hacc).2 hknown
      rw [applyAll_cons, apply_of_not_accepts hrefused]
      exact ih h hlog
  | stray htask _ ih =>
      have hrefused : ¬ t.Accepts _ := fun hacc => htask (h.accepts_iff.mp hacc).1
      rw [applyAll_cons, apply_of_not_accepts hrefused]
      exact ih h hlog

end Shows

/-- Wherever a log is cut, and whatever comes again or goes astray, a timeline that loads the first
part and is sent the second becomes the one that loads the whole log. -/
theorem converges_of_delivers {log : List TaskEvent} (hlog : (log.map (·.id)).Nodup) (task : Task)
    (artifacts : List Artifact) (k : Nat) {es : List Envelope}
    (hes : Delivers task.id (log.take k) (log.drop k) es) :
    let cut := (ofSnapshot (.afterLog task artifacts (log.take k))).applyAll es
    let whole := ofSnapshot (.afterLog task artifacts log)
    cut.events = whole.events ∧ cut.status = whole.status ∧ cut.artifacts = whole.artifacts ∧
      cut.task = whole.task ∧ (∀ id, cut.contains id = whole.contains id) ∧
      whole.events = log := by
  intro cut whole
  have hwhole : whole.Shows (.afterLog task artifacts log) := shows_ofSnapshot hlog
  have hloaded : (ofSnapshot (.afterLog task artifacts (log.take k))).Shows
      (.afterLog task artifacts (log.take k)) := by
    apply shows_ofSnapshot
    exact hlog.sublist ((List.take_sublist k log).map _)
  have hcut : cut.Shows (.afterLog task artifacts log) := by
    have hend := hloaded.applyAll hes (by rwa [List.take_append_drop])
    rwa [List.take_append_drop] at hend
  have htask : cut.task = whole.task := hcut.task.trans hwhole.task.symm
  exact ⟨hcut.events.trans hwhole.events.symm, congrArg (·.status) htask,
    hcut.artifacts.trans hwhole.artifacts.symm, htask, hcut.contains_eq hwhole, hwhole.events⟩

def greeting : TaskEvent := ⟨⟨"e1"⟩, 1, ⟨⟨2026, 3, 1⟩, 0, 0⟩, .userMessage, "u", []⟩

def failing : TaskEvent :=
  ⟨⟨"e2"⟩, 2, ⟨⟨2026, 3, 1⟩, 1, 0⟩, .stateTransition, "u", [("to_status", .text "FAILED")]⟩

/-- A transition that comes too late. -/
def reviving : TaskEvent :=
  ⟨⟨"e3"⟩, 3, ⟨⟨2026, 3, 1⟩, 2, 0⟩, .stateTransition, "u", [("to_status", .text "RUNNING")]⟩

/-- The first event comes again, the second one twice, and the third one first in an envelope of
another task. -/
def noisyDelivery : List Envelope :=
  [⟨greeting, ⟨"t1"⟩, false⟩, ⟨reviving, ⟨"t2"⟩, true⟩, ⟨failing, ⟨"t1"⟩, false⟩,
    ⟨failing, ⟨"t1"⟩, true⟩, ⟨reviving, ⟨"t1"⟩, false⟩]

theorem delivers_noisyDelivery :
    Delivers ⟨"t1"⟩ [greeting] [failing, reviving] noisyDelivery := by
  apply Delivers.again (by decide)
  apply Delivers.stray (by decide)
  apply Delivers.next
  apply Delivers.again (by decide)
  apply Delivers.next
  apply Delivers.nothing

theorem failed_converges :
    ([greeting, failing, reviving].map (·.id)).Nodup ∧
      Delivers oneEvent.task.id [greeting] [failing, reviving] noisyDelivery ∧
      (let cut := (ofSnapshot (.afterLog oneEvent.task [] [greeting])).applyAll noisyDelivery
       cut.events = [greeting, failing, reviving] ∧ cut.status = .failed) := by
  have hlog : ([greeting, failing, reviving].map (·.id)).Nodup := by decide
  have hes : Delivers oneEvent.task.id [greeting] [failing, reviving] noisyDelivery :=
    delivers_noisyDelivery
  obtain ⟨hevents, hstatus, -, -, -, hwhole⟩ := converges_of_delivers hlog oneEvent.task [] 1 hes
  refine ⟨hlog, hes, hevents.trans hwhole, hstatus.trans ?_⟩
  decide

end Timeline

end TaskMonitor
