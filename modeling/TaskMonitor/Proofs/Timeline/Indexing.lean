import Mathlib.Data.List.Induction
import Mathlib.Data.List.Nodup
import TaskMonitor.Proofs.Timeline.Merging

/-! # The index of a timeline

A timeline finds duplicates by an index. It holds the same events as if it scanned its list for each
of them: the first event of each id, in the order of arrival. -/

namespace TaskMonitor

/-! ## Lists without an index -/

def addEvent (events : List TaskEvent) (e : TaskEvent) : List TaskEvent :=
  if events.any (·.id = e.id) then events else events ++ [e]

/-- The first event of each id, in order. -/
def firstOfEach (events : List TaskEvent) : List TaskEvent :=
  events.eraseDupsBy fun a b => a.id == b.id

theorem addEvent_of_mem {events : List TaskEvent} {e : TaskEvent}
    (h : e.id ∈ events.map (·.id)) : addEvent events e = events := by
  simpa [addEvent] using h

theorem addEvent_of_notMem {events : List TaskEvent} {e : TaskEvent}
    (h : e.id ∉ events.map (·.id)) : addEvent events e = events ++ [e] := by
  simpa [addEvent] using h

theorem mem_ids_addEvent (events : List TaskEvent) (e : TaskEvent) (id : EventId) :
    id ∈ (addEvent events e).map (·.id) ↔ id ∈ events.map (·.id) ∨ id = e.id := by
  by_cases h : e.id ∈ events.map (·.id)
  · rw [addEvent_of_mem h]
    constructor
    · exact .inl
    · rintro (hid | rfl)
      · exact hid
      · exact h
  · rw [addEvent_of_notMem h, List.map_append, List.mem_append]
    simp

theorem nodup_ids_addEvent {events : List TaskEvent} (h : (events.map (·.id)).Nodup)
    (e : TaskEvent) : ((addEvent events e).map (·.id)).Nodup := by
  by_cases hmem : e.id ∈ events.map (·.id)
  · rwa [addEvent_of_mem hmem]
  · rw [addEvent_of_notMem hmem, List.map_append]
    refine h.append (List.nodup_singleton e.id) ?_
    simpa using hmem

theorem foldl_addEvent (events kept : List TaskEvent) :
    events.foldl addEvent kept =
      List.eraseDupsBy.loop (fun a b => a.id == b.id) events kept.reverse := by
  induction events generalizing kept with
  | nil => simp [List.eraseDupsBy.loop]
  | cons e events ih =>
      rw [List.foldl_cons, ih, List.eraseDupsBy.loop]
      have hany : (kept.reverse.any fun x => e.id == x.id) = kept.any (·.id = e.id) := by
        rw [List.any_reverse]
        exact congrArg kept.any (funext fun x => by simp [eq_comm, Bool.beq_eq_decide_eq])
      rw [hany, addEvent]
      cases kept.any (·.id = e.id) with
      | true => rfl
      | false => simp

theorem firstOfEach_append (xs ys : List TaskEvent) :
    firstOfEach (xs ++ ys) = ys.foldl addEvent (firstOfEach xs) := by
  have hfold (events : List TaskEvent) : firstOfEach events = events.foldl addEvent [] :=
    (foldl_addEvent events []).symm
  rw [hfold, hfold, List.foldl_append]

theorem firstOfEach_cons (e : TaskEvent) (events : List TaskEvent) :
    firstOfEach (e :: events) = e :: firstOfEach (events.filter (·.id ≠ e.id)) := by
  rw [firstOfEach, List.eraseDupsBy_cons]
  congr 3
  funext x
  simp

theorem nodup_ids_firstOfEach (events : List TaskEvent) :
    ((firstOfEach events).map (·.id)).Nodup := by
  induction events using List.reverseRecOn with
  | nil => exact List.nodup_nil
  | append_singleton events e ih =>
      rw [firstOfEach_append]
      exact nodup_ids_addEvent ih e

theorem foldl_merge (envelopes : List Envelope) (events : List TaskEvent) :
    envelopes.foldl merge events = (envelopes.map (·.event)).foldl addEvent events := by
  rw [List.foldl_map]
  rfl

namespace Timeline

/-! ## The index -/

/-- The index has the ids of the events, and no two events share one. -/
structure IsIndexed (t : Timeline) : Prop where
  contains : ∀ id, t.contains id = true ↔ id ∈ t.events.map (·.id)
  distinct : (t.events.map (·.id)).Nodup

/-- Events that are taken one by one, with the index of those before them, are those that a scan
would keep. The induction is on the events; the index always has the ids of what was kept. -/
theorem firsts_spec {seen : Std.HashSet EventId} {kept : List TaskEvent}
    (h : ∀ id, seen.contains id = true ↔ id ∈ kept.map (·.id)) (events : List TaskEvent) :
    kept ++ (firsts seen events).1 = events.foldl addEvent kept ∧
      ∀ id, (firsts seen events).2.contains id = true ↔
        id ∈ (events.foldl addEvent kept).map (·.id) := by
  induction events generalizing seen kept with
  | nil => exact ⟨List.append_nil kept, h⟩
  | cons e events ih =>
      rw [List.foldl_cons]
      cases hseen : seen.contains e.id with
      | true =>
          rw [addEvent_of_mem ((h e.id).mp hseen)]
          simpa only [firsts, hseen, if_true] using ih h
      | false =>
          have hnew : e.id ∉ kept.map (·.id) := by
            rw [← h e.id, hseen]
            exact Bool.false_ne_true
          have hnext : ∀ id, (seen.insert e.id).contains id = true ↔
              id ∈ (addEvent kept e).map (·.id) := by
            intro id
            rw [mem_ids_addEvent, ← h id, Std.HashSet.contains_insert, Bool.or_eq_true, beq_iff_eq,
              eq_comm, or_comm]
          obtain ⟨hevents, hids⟩ := ih hnext
          simp only [firsts, hseen, Bool.false_eq_true, if_false]
          refine ⟨?_, hids⟩
          rw [← hevents, addEvent_of_notMem hnew, List.append_assoc]
          rfl

theorem firsts_empty (events : List TaskEvent) :
    (firsts ∅ events).1 = firstOfEach events ∧
      ∀ id, (firsts ∅ events).2.contains id = true ↔ id ∈ (firstOfEach events).map (·.id) := by
  have hempty : ∀ id, (∅ : Std.HashSet EventId).contains id = true ↔
      id ∈ ([] : List TaskEvent).map (·.id) := by simp
  have hspec := firsts_spec hempty events
  rwa [List.nil_append, foldl_addEvent] at hspec

theorem isIndexed_ofSnapshot (s : TaskSnapshot) : (ofSnapshot s).IsIndexed := by
  obtain ⟨hfirsts, hids⟩ := firsts_empty s.events
  have hevents : (ofSnapshot s).events = firstOfEach s.events := hfirsts
  rw [← hevents] at hids
  refine ⟨hids, ?_⟩
  rw [hevents]
  exact nodup_ids_firstOfEach s.events

/-! ## One envelope -/

/-- An envelope of the task is merged as by a scan, and no other one is. -/
theorem events_apply {t : Timeline} (h : t.IsIndexed) (e : Envelope) :
    (t.apply e).1.events = if e.taskId = t.task.id then merge t.events e else t.events := by
  by_cases hacc : t.Accepts e
  · rw [apply_of_accepts hacc, if_pos hacc.1]
  · rw [apply_of_not_accepts hacc]
    split
    next htask =>
      have hseen : t.contains e.event.id = true := by simpa [Accepts, htask] using hacc
      exact (addEvent_of_mem ((h.contains _).mp hseen)).symm
    next => rfl

theorem IsIndexed.apply {t : Timeline} (h : t.IsIndexed) (e : Envelope) :
    (t.apply e).1.IsIndexed := by
  refine ⟨?_, ?_⟩
  · intro id
    rw [contains_apply, events_apply h, h.contains]
    split
    next htask =>
      have hids : id ∈ (merge t.events e).map (·.id) ↔
          id ∈ t.events.map (·.id) ∨ id = e.event.id := mem_ids_addEvent t.events e.event id
      rw [hids, eq_comm (a := id)]
      simp [htask]
    next htask => simp [htask]
  · rw [events_apply h]
    split
    · exact nodup_ids_addEvent h.distinct e.event
    · exact h.distinct

/-! ## Answers -/

theorem apply_snd_of_accepts {t : Timeline} {e : Envelope} (h : t.Accepts e) :
    ∃ change, (t.apply e).2 = .appended change := by
  obtain ⟨hid, hnew⟩ := h
  have hnew' : t.seen.contains e.event.id = false := hnew
  simp only [apply, hid, ne_eq, not_true_eq_false, if_false, hnew', Bool.false_eq_true]
  cases e.target with
  | none => exact ⟨none, rfl⟩
  | some after => exact ⟨_, rfl⟩

theorem apply_snd_of_foreign {t : Timeline} {e : Envelope} (h : e.taskId ≠ t.task.id) :
    (t.apply e).2 = .foreign e.taskId := by
  simp [apply, h]

theorem apply_snd_of_known {t : Timeline} {e : Envelope} (h : e.taskId = t.task.id)
    (hseen : t.contains e.event.id = true) : (t.apply e).2 = .duplicate := by
  have hseen' : t.seen.contains e.event.id = true := hseen
  simp [apply, h, hseen']

theorem accepts_or (t : Timeline) (e : Envelope) :
    t.Accepts e ∨ e.taskId ≠ t.task.id ∨
      e.taskId = t.task.id ∧ t.contains e.event.id = true := by
  by_cases htask : e.taskId = t.task.id
  · cases hseen : t.contains e.event.id with
    | true => exact .inr (.inr ⟨htask, rfl⟩)
    | false => exact .inl ⟨htask, hseen⟩
  · exact .inr (.inl htask)

theorem apply_appended_iff (t : Timeline) (e : Envelope) :
    (∃ change, (t.apply e).2 = .appended change) ↔ t.Accepts e := by
  refine ⟨?_, apply_snd_of_accepts⟩
  rintro ⟨change, happended⟩
  rcases t.accepts_or e with hacc | hforeign | ⟨htask, hseen⟩
  · exact hacc
  · simp [apply_snd_of_foreign hforeign] at happended
  · simp [apply_snd_of_known htask hseen] at happended

theorem apply_duplicate_iff (t : Timeline) (e : Envelope) :
    (t.apply e).2 = .duplicate ↔ e.taskId = t.task.id ∧ t.contains e.event.id = true := by
  refine ⟨?_, fun ⟨htask, hseen⟩ => apply_snd_of_known htask hseen⟩
  intro hduplicate
  rcases t.accepts_or e with hacc | hforeign | hknown
  · obtain ⟨change, happended⟩ := apply_snd_of_accepts hacc
    simp [happended] at hduplicate
  · simp [apply_snd_of_foreign hforeign] at hduplicate
  · exact hknown

theorem apply_foreign_iff (t : Timeline) (e : Envelope) (other : TaskId) :
    (t.apply e).2 = .foreign other ↔ e.taskId ≠ t.task.id ∧ other = e.taskId := by
  constructor
  · intro hanswer
    rcases t.accepts_or e with hacc | hforeign | ⟨htask, hseen⟩
    · obtain ⟨change, happended⟩ := apply_snd_of_accepts hacc
      simp [happended] at hanswer
    · rw [apply_snd_of_foreign hforeign] at hanswer
      exact ⟨hforeign, (Merged.foreign.inj hanswer).symm⟩
    · simp [apply_snd_of_known htask hseen] at hanswer
  · rintro ⟨hforeign, rfl⟩
    exact apply_snd_of_foreign hforeign

theorem events_apply_of_accepts {t : Timeline} (h : t.IsIndexed) {e : Envelope}
    (hacc : t.Accepts e) : (t.apply e).1.events = t.events ++ [e.event] := by
  rw [events_apply h, if_pos hacc.1]
  apply addEvent_of_notMem
  rw [← h.contains, hacc.2]
  exact Bool.false_ne_true

theorem length_events_apply_iff {t : Timeline} (h : t.IsIndexed) (e : Envelope) :
    t.events.length < (t.apply e).1.events.length ↔ t.Accepts e := by
  by_cases hacc : t.Accepts e
  · simp [events_apply_of_accepts h hacc, hacc]
  · simp [apply_of_not_accepts hacc, hacc]

/-! ## Many envelopes -/

def envelopesOf (id : TaskId) (es : List Envelope) : List Envelope := es.filter (·.taskId = id)

theorem IsIndexed.applyAll {t : Timeline} (h : t.IsIndexed) (es : List Envelope) :
    (t.applyAll es).IsIndexed := by
  induction es generalizing t with
  | nil => exact h
  | cons e es ih => exact ih (h.apply e)

@[simp] theorem applyAll_task_id (t : Timeline) (es : List Envelope) :
    (t.applyAll es).task.id = t.task.id := by
  induction es generalizing t with
  | nil => rfl
  | cons e es ih => rw [applyAll_cons, ih, apply_task_id]

theorem events_applyAll {t : Timeline} (h : t.IsIndexed) (es : List Envelope) :
    (t.applyAll es).events = (envelopesOf t.task.id es).foldl merge t.events := by
  induction es generalizing t with
  | nil => rfl
  | cons e es ih =>
      rw [applyAll_cons, ih (h.apply e), events_apply h, apply_task_id]
      by_cases htask : e.taskId = t.task.id
      · simp [envelopesOf, htask]
      · simp [envelopesOf, htask]

/-- A timeline is what plain merging makes of a list of events and the envelopes of the task. It
answers the next envelope by what that does to it. -/
structure IsMergeOf (task : Task) (listed : List TaskEvent) (es : List Envelope)
    (t : Timeline) : Prop where
  merged : t.events = (envelopesOf task.id es).foldl merge (firstOfEach listed)
  first : t.events = firstOfEach (listed ++ (envelopesOf task.id es).map (·.event))
  distinct : (t.events.map (·.id)).Nodup
  contains : ∀ id, t.contains id = true ↔ ∃ e ∈ t.events, e.id = id
  grows : ∀ e, (∃ change, (t.apply e).2 = .appended change) ↔
    t.events.length < (t.apply e).1.events.length
  appended : ∀ e change, (t.apply e).2 = .appended change →
    (t.apply e).1.events = t.events ++ [e.event]
  duplicate : ∀ e, (t.apply e).2 = .duplicate ↔
    e.taskId = task.id ∧ ∃ known ∈ t.events, known.id = e.event.id
  foreign : ∀ e other, (t.apply e).2 = .foreign other ↔
    e.taskId ≠ task.id ∧ other = e.taskId
  unchanged : ∀ e, (t.apply e).2 = .duplicate ∨ (∃ other, (t.apply e).2 = .foreign other) →
    (t.apply e).1 = t

/-- However often events come again, and whatever comes of other tasks, the timeline of a snapshot
holds what plain merging would leave. -/
theorem isMergeOf_applyAll (s : TaskSnapshot) (es : List Envelope) :
    IsMergeOf s.task s.events es ((ofSnapshot s).applyAll es) := by
  have hindexed := (isIndexed_ofSnapshot s).applyAll es
  have htask : ((ofSnapshot s).applyAll es).task.id = s.task.id := applyAll_task_id _ es
  have hmerged : ((ofSnapshot s).applyAll es).events =
      (envelopesOf s.task.id es).foldl merge (firstOfEach s.events) := by
    rw [events_applyAll (isIndexed_ofSnapshot s) es, ← (firsts_empty s.events).1]
    rfl
  generalize (ofSnapshot s).applyAll es = t at hindexed htask hmerged
  have hcontains (id : EventId) : t.contains id = true ↔ ∃ e ∈ t.events, e.id = id := by
    rw [hindexed.contains]
    exact List.mem_map
  refine ⟨hmerged, ?_, hindexed.distinct, hcontains, ?_, ?_, ?_, ?_, ?_⟩
  · rw [hmerged, foldl_merge, firstOfEach_append]
  · intro e
    rw [apply_appended_iff, length_events_apply_iff hindexed]
  · intro e change happended
    exact events_apply_of_accepts hindexed ((apply_appended_iff t e).mp ⟨change, happended⟩)
  · intro e
    rw [apply_duplicate_iff, hcontains, htask]
  · intro e other
    rw [apply_foreign_iff, htask]
  · rintro e (hduplicate | ⟨other, hforeign⟩)
    · apply apply_of_not_accepts
      intro hacc
      simp [hacc.2, apply_duplicate_iff] at hduplicate
    · apply apply_of_not_accepts
      intro hacc
      simp [hacc.1, apply_foreign_iff] at hforeign

def oneEvent : TaskSnapshot where
  task :=
    { id := ⟨"t1"⟩, createdAt := ⟨⟨2026, 3, 1⟩, 0, 0⟩, updatedAt := ⟨⟨2026, 3, 1⟩, 0, 0⟩,
      status := .running, title := "demo", thread := "th", scope := "sc",
      requester := ⟨"web", "owner"⟩, risk := .low }
  events := [⟨⟨"e1"⟩, 1, ⟨⟨2026, 3, 1⟩, 0, 0⟩, .userMessage, "u", []⟩]
  artifacts := []

def strayEnvelope : Envelope where
  event := ⟨⟨"e1"⟩, 1, ⟨⟨2026, 3, 1⟩, 0, 0⟩, .userMessage, "u", []⟩
  taskId := ⟨"t2"⟩
  final := false

/-- An id that is there is no duplicate in an envelope of another task. -/
theorem stray_not_duplicate :
    (ofSnapshot oneEvent).contains strayEnvelope.event.id = true ∧
      ((ofSnapshot oneEvent).apply strayEnvelope).2 = .foreign ⟨"t2"⟩ ∧
      ¬ (((ofSnapshot oneEvent).apply strayEnvelope).2 = .duplicate ↔
        (ofSnapshot oneEvent).contains strayEnvelope.event.id = true) := by
  have hknown : (ofSnapshot oneEvent).contains strayEnvelope.event.id = true := by
    simp [contains, ofSnapshot, firsts, oneEvent, strayEnvelope]
  have hforeign : ((ofSnapshot oneEvent).apply strayEnvelope).2 = .foreign ⟨"t2"⟩ :=
    apply_snd_of_foreign (by decide)
  refine ⟨hknown, hforeign, ?_⟩
  rw [hforeign, hknown]
  simp

end Timeline

end TaskMonitor
