import Mathlib.Data.List.Chain
import TaskMonitor.Proofs.Timeline.Indexing

/-! # How the status of a task moves

Of the statuses that new events ask for, the first that ends the task counts, or else the last. -/

namespace TaskMonitor

/-! ## Statuses that are asked for -/

namespace TaskStatus

theorem ofName?_eq_some_iff {text : String} {s : TaskStatus} :
    ofName? text = some s ↔ text = s.name := by
  constructor
  · intro h
    simpa [eq_comm] using List.find?_some h
  · rintro rfl
    cases s <;> rfl

/-- The status after one is asked for. One that ended the task is not left. -/
def follow (s target : TaskStatus) : TaskStatus := if s.isTerminal then s else target

/-- Where a task comes to that has the status `s` and is asked to take on others: to the first one
that ends it, or else to the last. -/
def settled (s : TaskStatus) (targets : List TaskStatus) : TaskStatus :=
  if s.isTerminal then s
  else (targets.find? (·.isTerminal)).getD (targets.getLast?.getD s)

theorem foldl_follow (s : TaskStatus) (targets : List TaskStatus) :
    targets.foldl follow s = s.settled targets := by
  induction targets generalizing s with
  | nil => simp [settled]
  | cons target targets ih =>
      rw [List.foldl_cons, ih]
      cases hs : s.isTerminal with
      | true => simp [follow, settled, hs]
      | false =>
          cases htarget : target.isTerminal with
          | true => simp [follow, settled, hs, htarget]
          | false => simp [follow, settled, hs, htarget, List.getLast?_cons]

end TaskStatus

/-- Only a transition asks for a status, by its name. -/
theorem TaskEvent.target_eq_some_iff {e : TaskEvent} {s : TaskStatus} :
    e.target = some s ↔
      e.type = .stateTransition ∧ e.payload.lookup "to_status" = some (.text s.name) := by
  unfold target
  by_cases htype : e.type = .stateTransition
  · simp only [htype, if_true, true_and]
    split
    next text htext => simp [htext, TaskStatus.ofName?_eq_some_iff]
    next hother =>
      constructor
      · simp
      · intro h
        exact absurd h (hother s.name)
  · simp [htype]

namespace Timeline

theorem statusAfter_eq_foldl (t : Timeline) (target : Option TaskStatus) :
    t.statusAfter target = target.toList.foldl TaskStatus.follow t.status := by
  cases target with
  | none => simp [statusAfter]
  | some after => rfl

/-! ## Events that are accepted -/

/-- The events that get into the timeline: those of the task that it does not know, the first of
each id. -/
def accepted (t : Timeline) (es : List Envelope) : List TaskEvent :=
  firstOfEach (((envelopesOf t.task.id es).map (·.event)).filter (!t.contains ·.id))

@[simp] theorem accepted_nil (t : Timeline) : t.accepted [] = [] := rfl

theorem accepted_cons (t : Timeline) (e : Envelope) (es : List Envelope) :
    t.accepted (e :: es) =
      (if t.Accepts e then [e.event] else []) ++ (t.apply e).1.accepted es := by
  by_cases hacc : t.Accepts e
  · obtain ⟨htask, hnew⟩ := hacc
    have hknown : (fun x : TaskEvent => !(t.apply e).1.contains x.id) =
        fun x => decide (x.id ≠ e.event.id) && !t.contains x.id := by
      funext x
      rw [Bool.eq_iff_iff]
      simp only [Bool.not_eq_true', ← Bool.not_eq_true, contains_apply, htask, true_and,
        Bool.and_eq_true, decide_eq_true_eq, not_or, ne_eq, eq_comm (a := x.id)]
      exact and_comm
    rw [if_pos ⟨htask, hnew⟩]
    simp only [accepted, envelopesOf, apply_task_id, hknown, htask, List.filter_cons, decide_true,
      if_true, List.map_cons, hnew, Bool.not_false, firstOfEach_cons, List.filter_filter]
    rfl
  · rw [if_neg hacc, apply_of_not_accepts hacc, List.nil_append]
    rcases t.accepts_or e with hacc' | hforeign | ⟨htask, hseen⟩
    · exact absurd hacc' hacc
    · simp [accepted, envelopesOf, hforeign]
    · simp [accepted, envelopesOf, htask, hseen]

def targets (t : Timeline) (es : List Envelope) : List TaskStatus :=
  (t.accepted es).filterMap TaskEvent.target

/-! ## The status -/

theorem status_apply (t : Timeline) (e : Envelope) :
    (t.apply e).1.status = if t.Accepts e then t.statusAfter e.target else t.status := by
  split
  next hacc =>
    rw [apply_of_accepts hacc]
    rfl
  next hacc => rw [apply_of_not_accepts hacc]

theorem status_applyAll (t : Timeline) (es : List Envelope) :
    (t.applyAll es).status = t.status.settled (t.targets es) := by
  rw [← TaskStatus.foldl_follow]
  induction es generalizing t with
  | nil => rfl
  | cons e es ih =>
      rw [applyAll_cons, ih, status_apply, targets, targets, accepted_cons, List.filterMap_append,
        List.foldl_append]
      split
      next hacc =>
        have htarget : [e.event].filterMap TaskEvent.target = e.target.toList := by
          cases htarget : e.event.target <;> simp [Envelope.target, htarget]
        rw [htarget, statusAfter_eq_foldl]
      next => rfl

theorem task_applyAll (t : Timeline) (es : List Envelope) :
    (t.applyAll es).task = { t.task with status := (t.applyAll es).status } := by
  induction es generalizing t with
  | nil => rfl
  | cons e es ih =>
      rw [applyAll_cons, ih]
      by_cases hacc : t.Accepts e
      · rw [apply_of_accepts hacc]
      · rw [apply_of_not_accepts hacc]

@[simp] theorem applyAll_artifacts (t : Timeline) (es : List Envelope) :
    (t.applyAll es).artifacts = t.artifacts := by
  induction es generalizing t with
  | nil => rfl
  | cons e es ih => rw [applyAll_cons, ih, apply_artifacts]

end Timeline

/-! ## Changes that are reported -/

def Merged.change? : Merged → Option StatusChange
  | .appended change => change
  | _ => none

/-- The changes that lead from a status through others. -/
def TaskStatus.moves (s : TaskStatus) : List TaskStatus → List StatusChange
  | [] => []
  | after :: rest => if after = s then s.moves rest else ⟨s, after⟩ :: after.moves rest

/-- Changes of a status that has not ended, each from where the one before it led. -/
inductive StatusChange.Lead : TaskStatus → List StatusChange → TaskStatus → Prop where
  | stay (s : TaskStatus) : Lead s [] s
  | move {s after last : TaskStatus} {changes : List StatusChange} :
      s.isTerminal = false → s ≠ after → Lead after changes last →
      Lead s (⟨s, after⟩ :: changes) last

namespace StatusChange.Lead

variable {s last : TaskStatus} {changes : List StatusChange}

theorem before_head? (h : Lead s changes last) : ∀ c ∈ changes.head?, c.before = s := by
  cases h with
  | stay => simp
  | move => simp

theorem isChain (h : Lead s changes last) :
    changes.IsChain fun c c' => c'.before = c.after := by
  induction h with
  | stay => exact .nil
  | move _ _ hrest ih => exact List.isChain_cons.mpr ⟨hrest.before_head?, ih⟩

theorem last_eq (h : Lead s changes last) : last = (changes.getLast?.map (·.after)).getD s := by
  induction h with
  | stay => rfl
  | @move s after last changes _ _ _ ih =>
      rw [ih, List.getLast?_cons]
      cases changes.getLast? <;> rfl

theorem before_ne_after (h : Lead s changes last) : ∀ c ∈ changes, c.before ≠ c.after := by
  induction h with
  | stay => simp
  | move _ hne _ ih => simpa using ⟨hne, ih⟩

/-- A status that ended the task is not changed, so only the last change can have led to one. -/
theorem countP_entersTerminal_le (h : Lead s changes last) :
    changes.countP (·.entersTerminal) ≤ 1 := by
  induction h with
  | stay => simp
  | @move s after last changes _ _ hrest ih =>
      rw [List.countP_cons]
      split
      next henters =>
        have hended : after.isTerminal = true := by
          simpa [entersTerminal] using (Bool.and_eq_true _ _ ▸ henters).2
        cases hrest with
        | stay => simp
        | move hrun => simp [hended] at hrun
      next => exact ih

end StatusChange.Lead

namespace Timeline

def changes (t : Timeline) : List Envelope → List StatusChange
  | [] => []
  | e :: es => (t.apply e).2.change?.toList ++ (t.apply e).1.changes es

def statuses (t : Timeline) : List Envelope → List TaskStatus
  | [] => []
  | e :: es => (t.apply e).1.status :: (t.apply e).1.statuses es

theorem transition_snd (t : Timeline) (after : TaskStatus) :
    (t.transition after).2 =
      if t.statusAfter (some after) = t.status then none
      else some ⟨t.status, t.statusAfter (some after)⟩ := by
  cases hterminal : t.isTerminal with
  | true =>
      have hstatus : t.status.isTerminal = true := hterminal
      simp [transition, hstatus, statusAfter_of_terminal hterminal]
  | false =>
      have hstatus : t.status.isTerminal = false := hterminal
      simp only [transition, hstatus, statusAfter_of_running hterminal, Option.getD_some,
        Bool.false_eq_true, false_or, eq_comm (a := after)]
      split <;> rfl

theorem change?_apply (t : Timeline) (e : Envelope) :
    (t.apply e).2.change? =
      if (t.apply e).1.status = t.status then none
      else some ⟨t.status, (t.apply e).1.status⟩ := by
  by_cases hacc : t.Accepts e
  · rw [status_apply, if_pos hacc]
    obtain ⟨htask, hnew⟩ := hacc
    have hnew' : t.seen.contains e.event.id = false := hnew
    simp only [apply, htask, ne_eq, not_true_eq_false, if_false, hnew', Bool.false_eq_true]
    cases e.target with
    | none => simp [Merged.change?, statusAfter]
    | some after => exact transition_snd _ after
  · rw [apply_of_not_accepts hacc, if_pos rfl]
    rcases t.accepts_or e with hacc' | hforeign | ⟨htask, hseen⟩
    · exact absurd hacc' hacc
    · rw [apply_snd_of_foreign hforeign]
      rfl
    · rw [apply_snd_of_known htask hseen]
      rfl

theorem isTerminal_of_status_ne {t : Timeline} {e : Envelope}
    (h : (t.apply e).1.status ≠ t.status) : t.isTerminal = false := by
  by_contra hterminal
  apply h
  rw [status_apply, statusAfter_of_terminal (by simpa using hterminal), ite_self]

theorem changes_eq_moves (t : Timeline) (es : List Envelope) :
    t.changes es = t.status.moves (t.statuses es) := by
  induction es generalizing t with
  | nil => rfl
  | cons e es ih =>
      rw [changes, statuses, TaskStatus.moves, ih, change?_apply]
      split
      next hsame => rw [hsame, Option.toList_none, List.nil_append]
      next => rfl

theorem lead_changes (t : Timeline) (es : List Envelope) :
    StatusChange.Lead t.status (t.changes es) (t.applyAll es).status := by
  induction es generalizing t with
  | nil => exact .stay t.status
  | cons e es ih =>
      rw [changes, applyAll_cons, change?_apply]
      have hrest := ih (t.apply e).1
      split
      next hsame => rwa [hsame] at hrest
      next hchanged => exact .move (isTerminal_of_status_ne hchanged) (Ne.symm hchanged) hrest

/-- What a run of envelopes does to the task of a timeline, and what is reported of it. -/
structure StatusRun (t : Timeline) (es : List Envelope) (after : Timeline)
    (changes : List StatusChange) : Prop where
  target : ∀ (e : TaskEvent) (s : TaskStatus), e.target = some s ↔
    e.type = .stateTransition ∧ e.payload.lookup "to_status" = some (.text s.name)
  status : after.status = t.status.settled (t.targets es)
  reported : changes = t.status.moves (t.statuses es)
  first : ∀ c ∈ changes.head?, c.before = t.status
  chained : changes.IsChain fun c c' => c'.before = c.after
  last : after.status = (changes.getLast?.map (·.after)).getD t.status
  differ : ∀ c ∈ changes, c.before ≠ c.after
  ended : changes.countP (·.entersTerminal) ≤ 1
  task : after.task = { t.task with status := after.status }
  artifacts : after.artifacts = t.artifacts

/-- Whatever envelopes come, in whatever order, the task settles on a status, and the changes that
are reported lead there. -/
theorem statusRun_applyAll (t : Timeline) (es : List Envelope) :
    StatusRun t es (t.applyAll es) (t.changes es) where
  target _ _ := TaskEvent.target_eq_some_iff
  status := t.status_applyAll es
  reported := t.changes_eq_moves es
  first := (t.lead_changes es).before_head?
  chained := (t.lead_changes es).isChain
  last := (t.lead_changes es).last_eq
  differ := (t.lead_changes es).before_ne_after
  ended := (t.lead_changes es).countP_entersTerminal_le
  task := t.task_applyAll es
  artifacts := t.applyAll_artifacts es

end Timeline

end TaskMonitor
