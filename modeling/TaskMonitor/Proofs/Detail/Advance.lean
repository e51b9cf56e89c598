import TaskMonitor.Proofs.Detail.Provenance

/-! # A view only moves forward

What is shown once is not taken back: a view leaves the load behind for good, its events grow at
the end, and of its task only the status moves, until it has ended. -/

namespace TaskMonitor

/-! ## Tasks and timelines -/

/-- The task has become the other one: its status may have moved, unless it had ended. -/
def Task.Becomes (t t' : Task) : Prop :=
  t' = { t with status := t'.status } ∧ (t.isTerminal = true → t'.status = t.status)

namespace Task.Becomes

variable {t t' t'' : Task}

theorem refl (t : Task) : t.Becomes t := ⟨rfl, fun _ => rfl⟩

theorem isTerminal (h : t.Becomes t') (hended : t.isTerminal = true) : t'.isTerminal = true := by
  rw [Task.isTerminal, h.2 hended]
  exact hended

theorem trans (h : t.Becomes t') (h' : t'.Becomes t'') : t.Becomes t'' := by
  constructor
  · calc t'' = { t' with status := t''.status } := h'.1
      _ = { t with status := t''.status } := by rw [h.1]
  · intro hended
    exact (h'.2 (h.isTerminal hended)).trans (h.2 hended)

end Task.Becomes

structure Timeline.Becomes (t t' : Timeline) : Prop where
  task : t.task.Becomes t'.task
  events : t.events <+: t'.events
  artifacts : t'.artifacts = t.artifacts

namespace Timeline.Becomes

theorem refl (t : Timeline) : t.Becomes t := ⟨.refl t.task, List.prefix_refl _, rfl⟩

theorem trans {t t' t'' : Timeline} (h : t.Becomes t') (h' : t'.Becomes t'') : t.Becomes t'' :=
  ⟨h.task.trans h'.task, h.events.trans h'.events, h'.artifacts.trans h.artifacts⟩

theorem apply (t : Timeline) (e : Envelope) : t.Becomes (t.apply e).1 where
  task := by
    by_cases hacc : t.Accepts e
    · rw [apply_of_accepts hacc]
      exact ⟨rfl, fun hended => statusAfter_of_terminal hended _⟩
    · rw [apply_of_not_accepts hacc]
      exact .refl t.task
  events := by
    rcases t.events_apply_cases e with hsame | ⟨-, hadded⟩
    · exact ⟨[], by simp [hsame]⟩
    · exact ⟨[e.event], hadded.symm⟩
  artifacts := apply_artifacts t e

end Timeline.Becomes

/-! ## What is known of the task -/

/-- What is known of the task has become the other. Nothing is known before the load, and an error
of the load stays. -/
inductive DetailPhase.Becomes : DetailPhase → DetailPhase → Prop where
  | waiting (p : DetailPhase) : Becomes .loading p
  | failed (e : LoadError) : Becomes (.failed e) (.failed e)
  | loaded {t t' : Timeline} (h : t.Becomes t') : Becomes (.loaded t) (.loaded t')

namespace DetailPhase.Becomes

theorem refl (p : DetailPhase) : p.Becomes p := by
  cases p with
  | loading => exact .waiting _
  | failed e => exact .failed e
  | loaded t => exact .loaded (.refl t)

theorem trans {p p' p'' : DetailPhase} (h : p.Becomes p') (h' : p'.Becomes p'') :
    p.Becomes p'' := by
  cases h with
  | waiting => exact .waiting p''
  | failed e => exact h'
  | loaded h =>
      cases h' with
      | loaded h' => exact .loaded (h.trans h')

end DetailPhase.Becomes

namespace DetailBinder

theorem phase_applySnapshot_becomes (b : DetailBinder) (token : MountToken)
    (result : Except LoadError TaskSnapshot) :
    b.phase.Becomes (b.applySnapshot token result).1.phase := by
  rcases b.applySnapshot_cases token result with hrefused | ⟨hloading, -, -⟩
  · rw [hrefused]
    exact .refl b.phase
  · rw [hloading]
    exact .waiting _

theorem phase_receive_becomes (b : DetailBinder) (answer : Option Signal) :
    b.phase.Becomes (b.receive answer).1.phase := by
  rcases b.phase_receive answer with hsame | ⟨-, t, e, -, -, hloaded, hphase⟩
  · rw [hsame]
    exact .refl b.phase
  · rw [hphase, hloaded]
    exact .loaded (.apply t e)

/-! ## Whole lives -/

namespace History

theorem perform_becomes (h : History) (op : Operation) :
    h.binder.phase.Becomes (h.perform op).binder.phase ∧ h.taken <+: (h.perform op).taken := by
  rcases h.perform_cases op with ⟨hb, htaken⟩ | ⟨token, result, -, hb, htaken⟩ |
    ⟨answer, -, hb, htaken⟩ | ⟨-, hb, htaken⟩
  · rw [hb, htaken]
    exact ⟨.refl _, List.prefix_refl _⟩
  · rw [hb, htaken]
    exact ⟨phase_applySnapshot_becomes h.binder token result, List.prefix_append _ _⟩
  · rw [hb, htaken]
    exact ⟨phase_receive_becomes h.binder answer, List.prefix_refl _⟩
  · rw [hb, htaken, (kept_dispose h.binder).2]
    exact ⟨.refl _, List.prefix_refl _⟩

theorem performAll_becomes (h : History) (more : List Operation) :
    h.binder.phase.Becomes (h.performAll more).binder.phase ∧
      h.taken <+: (h.performAll more).taken := by
  induction more generalizing h with
  | nil => exact ⟨.refl _, List.prefix_refl _⟩
  | cons op more ih =>
      obtain ⟨hphase, htaken⟩ := h.perform_becomes op
      obtain ⟨hphase', htaken'⟩ := ih (h.perform op)
      exact ⟨hphase.trans hphase', htaken.trans htaken'⟩

end History

end DetailBinder

/-! ## Views -/

/-- What a view shows fits together: nothing before the load, and then the task or an error. -/
structure DetailView.IsCoherent (v : DetailView) : Prop where
  loading : v.loading = true →
    v.task = none ∧ v.events = [] ∧ v.artifacts = [] ∧ v.error = none ∧ v.streamStatus = none
  ready : v.loading = false → v.task.isSome = v.error.isNone
  failed : v.error.isSome = true → v.streamStatus = none ∧ v.events = []

/-- A view that is shown after another one takes nothing of it back. -/
structure DetailView.Precedes (v w : DetailView) : Prop where
  ready : v.loading = false → w.loading = false
  task : v.loading = false → v.task.Rel Task.Becomes w.task
  events : v.loading = false → v.events <+: w.events
  artifacts : v.loading = false → w.artifacts = v.artifacts
  error : v.loading = false → w.error = v.error
  stream : v.streamStatus.isSome = true → w.streamStatus.isSome = true
  disabled : v.loading = false → v.streamEnabled = false → w.streamEnabled = false

namespace DetailBinder

variable {id : TaskId} {token : MountToken} {baseUrl : String}

theorem isCoherent_run (id : TaskId) (token : MountToken) (baseUrl : String)
    (ops : List Operation) : (run id token baseUrl ops).binder.view.IsCoherent := by
  have htraced := traced_run id token baseUrl ops
  have hstream := (staged_run id token baseUrl ops).stage.isSome_stream
  generalize run id token baseUrl ops = h at htraced hstream
  obtain ⟨⟨taskId, token', phase, stream, url, disposed⟩, requests, taken, dropped⟩ := h
  cases htraced with
  | waiting =>
      obtain rfl : stream = none := by simpa using hstream
      exact ⟨fun _ => ⟨rfl, rfl, rfl, rfl, rfl⟩, by simp [view, isLoading], by simp [view]⟩
  | failed loadToken e =>
      obtain rfl : stream = none := by simpa using hstream
      exact ⟨by simp [view, isLoading], fun _ => rfl, fun _ => ⟨rfl, rfl⟩⟩
  | loaded loadToken task artifacts events came =>
      exact ⟨by simp [view, isLoading], fun _ => rfl, by simp [view]⟩

theorem taken_ne_nil {ops : List Operation}
    (hready : (run id token baseUrl ops).binder.view.loading = false) :
    (run id token baseUrl ops).taken ≠ [] := by
  have htraced := traced_run id token baseUrl ops
  generalize run id token baseUrl ops = h at hready htraced ⊢
  obtain ⟨⟨taskId, token', phase, stream, url, disposed⟩, requests, taken, dropped⟩ := h
  rintro rfl
  cases htraced
  simp [view, isLoading] at hready

theorem shown_of_becomes {b b' : DetailBinder} (h : b.phase.Becomes b'.phase)
    (hready : b.view.loading = false) :
    b'.view.loading = false ∧ b.view.task.Rel Task.Becomes b'.view.task ∧
      b.view.events <+: b'.view.events ∧ b'.view.artifacts = b.view.artifacts ∧
      b'.view.error = b.view.error := by
  obtain ⟨taskId, token, phase, stream, baseUrl, disposed⟩ := b
  obtain ⟨taskId', token', phase', stream', baseUrl', disposed'⟩ := b'
  cases h with
  | waiting => simp [view, isLoading] at hready
  | failed e => exact ⟨rfl, .none, List.prefix_refl _, rfl, rfl⟩
  | loaded h => exact ⟨rfl, .some h.task, h.events, h.artifacts, rfl⟩

/-- Whatever is done to a view and in whatever order, what it shows fits together at every moment,
and nothing that it showed earlier is taken back later. -/
theorem forward_run (id : TaskId) (token : MountToken) (baseUrl : String)
    (ops more : List Operation) :
    let v := (run id token baseUrl ops).binder.view
    let w := (run id token baseUrl (ops ++ more)).binder.view
    v.IsCoherent ∧ w.IsCoherent ∧ v.Precedes w := by
  intro v w
  have hs := staged_run id token baseUrl ops
  have hs' := staged_run id token baseUrl (ops ++ more)
  have hmore : run id token baseUrl (ops ++ more) = (run id token baseUrl ops).performAll more :=
    List.foldl_append
  obtain ⟨hphase, htaken⟩ := (run id token baseUrl ops).performAll_becomes more
  rw [← hmore] at hphase htaken
  refine ⟨isCoherent_run id token baseUrl ops, isCoherent_run id token baseUrl (ops ++ more), ?_⟩
  have hshown := shown_of_becomes hphase
  refine
    { ready := fun hready => (hshown hready).1
      task := fun hready => (hshown hready).2.1
      events := fun hready => (hshown hready).2.2.1
      artifacts := fun hready => (hshown hready).2.2.2.1
      error := fun hready => (hshown hready).2.2.2.2
      stream := ?_
      disabled := ?_ }
  · -- A view has a stream since it took the load of a task that runs.
    intro hstream
    have hrunning : (run id token baseUrl ops).taken.any Load.isRunning = true := by
      rw [← hs.stage.isSome_stream]
      simpa [v, view] using hstream
    have hkept : (run id token baseUrl (ops ++ more)).taken.any Load.isRunning = true := by
      obtain ⟨l, hl, hrun⟩ := List.any_eq_true.mp hrunning
      exact List.any_eq_true.mpr ⟨l, htaken.subset hl, hrun⟩
    rw [← hs'.stage.isSome_stream] at hkept
    simpa [w, view] using hkept
  · intro hready hdisabled
    have hkept := hs.performAll_of_disabled (.inl (taken_ne_nil hready)) hdisabled more
    rwa [← hmore] at hkept

end DetailBinder

end TaskMonitor
