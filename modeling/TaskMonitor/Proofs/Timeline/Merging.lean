import TaskMonitor.Timeline.Basic

/-! # Envelopes that change a timeline, and those that do not -/

namespace TaskMonitor.Timeline

/-! ## One envelope -/

/-- The envelope is of the task, and its event is not there yet. -/
def Accepts (t : Timeline) (e : Envelope) : Prop :=
  e.taskId = t.task.id ∧ t.contains e.event.id = false

instance (t : Timeline) (e : Envelope) : Decidable (t.Accepts e) :=
  inferInstanceAs (Decidable (_ ∧ _))

theorem apply_of_not_accepts {t : Timeline} {e : Envelope} (h : ¬ t.Accepts e) :
    (t.apply e).1 = t := by
  by_cases hid : e.taskId = t.task.id
  · have hseen : t.seen.contains e.event.id = true := by
      simpa [Accepts, hid, contains] using h
    simp [apply, hid, hseen]
  · simp [apply, hid]

def statusAfter (t : Timeline) (target : Option TaskStatus) : TaskStatus :=
  if t.isTerminal then t.status else target.getD t.status

theorem statusAfter_of_terminal {t : Timeline} (h : t.isTerminal = true)
    (target : Option TaskStatus) : t.statusAfter target = t.status := by
  simp [statusAfter, h]

theorem statusAfter_of_running {t : Timeline} (h : t.isTerminal = false)
    (target : Option TaskStatus) : t.statusAfter target = target.getD t.status := by
  simp [statusAfter, h]

theorem transition_fst (t : Timeline) (after : TaskStatus) :
    (t.transition after).1 = { t with task := { t.task with status := t.statusAfter after } } := by
  by_cases hterminal : t.isTerminal = true
  · have hstatus : t.status.isTerminal = true := hterminal
    simp only [transition, hstatus, true_or, if_true, statusAfter_of_terminal hterminal]
    rfl
  · have hrunning : t.isTerminal = false := by simpa using hterminal
    have hstatus : t.status.isTerminal = false := hrunning
    rw [statusAfter_of_running hrunning]
    by_cases hsame : t.status = after
    · subst hsame
      simp only [transition, or_true, if_true]
      rfl
    · simp [transition, hstatus, hsame]

theorem apply_of_accepts {t : Timeline} {e : Envelope} (h : t.Accepts e) :
    (t.apply e).1 =
      { task := { t.task with status := t.statusAfter e.target }
        events := merge t.events e
        artifacts := t.artifacts
        seen := t.seen.insert e.event.id } := by
  obtain ⟨hid, hnew⟩ := h
  have hnew' : t.seen.contains e.event.id = false := hnew
  simp only [apply, hid, ne_eq, not_true_eq_false, if_false, hnew', Bool.false_eq_true]
  cases htarget : e.target with
  | none => simp [statusAfter, status]
  | some after =>
      simp only
      rw [transition_fst]
      rfl

@[simp] theorem apply_task_id (t : Timeline) (e : Envelope) :
    (t.apply e).1.task.id = t.task.id := by
  by_cases h : t.Accepts e
  · rw [apply_of_accepts h]
  · rw [apply_of_not_accepts h]

@[simp] theorem apply_artifacts (t : Timeline) (e : Envelope) :
    (t.apply e).1.artifacts = t.artifacts := by
  by_cases h : t.Accepts e
  · rw [apply_of_accepts h]
  · rw [apply_of_not_accepts h]

theorem events_apply_cases (t : Timeline) (e : Envelope) :
    (t.apply e).1.events = t.events ∨
      e.taskId = t.task.id ∧ (t.apply e).1.events = t.events ++ [e.event] := by
  by_cases hacc : t.Accepts e
  · rw [apply_of_accepts hacc]
    simp only [merge]
    split
    · exact .inl rfl
    · exact .inr ⟨hacc.1, rfl⟩
  · rw [apply_of_not_accepts hacc]
    exact .inl rfl

theorem contains_apply (t : Timeline) (e : Envelope) (id : EventId) :
    (t.apply e).1.contains id = true ↔
      t.contains id = true ∨ e.taskId = t.task.id ∧ e.event.id = id := by
  by_cases h : t.Accepts e
  · rw [apply_of_accepts h]
    simp [contains, h.1, or_comm]
  · rw [apply_of_not_accepts h]
    constructor
    · exact .inl
    · rintro (hid | ⟨htask, rfl⟩)
      · exact hid
      · simpa [Accepts, htask] using h

theorem not_accepts_apply (t : Timeline) (e : Envelope) : ¬ (t.apply e).1.Accepts e := by
  rintro ⟨hid, hnew⟩
  have hseen := (contains_apply t e e.event.id).mpr (.inr ⟨by simpa using hid, rfl⟩)
  simp [hseen] at hnew

theorem not_accepts_apply_of_not_accepts {t : Timeline} {e : Envelope} (h : ¬ t.Accepts e)
    (e' : Envelope) : ¬ (t.apply e').1.Accepts e := by
  rintro ⟨hid, hnew⟩
  apply h
  refine ⟨by simpa using hid, ?_⟩
  cases hseen : t.contains e.event.id with
  | false => rfl
  | true =>
      rw [(contains_apply t e' e.event.id).mpr (.inl hseen)] at hnew
      exact hnew

/-! ## The end of the task -/

/-- The envelope brings the transition that ends the task. -/
def EndedBy (t : Timeline) (e : Envelope) : Prop :=
  t.Accepts e ∧ e.target.any (·.isTerminal) = true

instance (t : Timeline) (e : Envelope) : Decidable (t.EndedBy e) :=
  inferInstanceAs (Decidable (_ ∧ _))

/-- A task that has not ended ends by such an envelope only. -/
theorem isTerminal_apply {t : Timeline} (h : t.isTerminal = false) (e : Envelope) :
    (t.apply e).1.isTerminal = decide (t.EndedBy e) := by
  by_cases hacc : t.Accepts e
  · rw [apply_of_accepts hacc, statusAfter_of_running h]
    cases htarget : e.target with
    | none => simpa [EndedBy, htarget, isTerminal, Task.isTerminal, status] using h
    | some after => simp [EndedBy, hacc, htarget, isTerminal, Task.isTerminal]
  · rw [apply_of_not_accepts hacc]
    simp [EndedBy, hacc, h]

/-! ## Many envelopes -/

@[simp] theorem applyAll_nil (t : Timeline) : t.applyAll [] = t := rfl

@[simp] theorem applyAll_cons (t : Timeline) (e : Envelope) (es : List Envelope) :
    t.applyAll (e :: es) = (t.apply e).1.applyAll es := rfl

theorem not_accepts_applyAll_of_not_accepts {t : Timeline} {e : Envelope} (h : ¬ t.Accepts e)
    (es : List Envelope) : ¬ (t.applyAll es).Accepts e := by
  induction es generalizing t with
  | nil => exact h
  | cons e' es ih => exact ih (not_accepts_apply_of_not_accepts h e')

end TaskMonitor.Timeline
