import TaskMonitor.Proofs.Detail.Following

/-! # What is known of the task

A load says what it is, and then only the envelopes that are brought change it. -/

namespace TaskMonitor.DetailBinder

theorem phase_evaluate (b : DetailBinder) : b.evaluate.1.phase = b.phase := by
  simp only [evaluate]
  split
  · rfl
  · split <;> rfl

theorem kept_dispose (b : DetailBinder) :
    b.dispose.1.taskId = b.taskId ∧ b.dispose.1.phase = b.phase := by
  simp only [dispose]
  split
  · exact ⟨rfl, rfl⟩
  · split <;> exact ⟨rfl, rfl⟩

/-! ## The load -/

/-- A load is taken by a view that waits for it. -/
theorem applySnapshot_cases (b : DetailBinder) (token : MountToken)
    (result : Except LoadError TaskSnapshot) :
    b.applySnapshot token result = (b, [], false) ∨
      b.phase = .loading ∧ (b.applySnapshot token result).2.2 = true ∧
      (b.applySnapshot token result).1.phase = match result with
        | .ok snapshot => .loaded (Timeline.ofSnapshot snapshot)
        | .error e => .failed e := by
  simp only [applySnapshot]
  split
  next => exact .inl rfl
  next htaken =>
    refine .inr ⟨?_, rfl, ?_⟩
    · cases hphase : b.phase with
      | loading => rfl
      | _ => simp [isLoading, hphase] at htaken
    · exact phase_evaluate _

/-! ## Signals -/

theorem call_receive {m : StreamManager Unit} {answer : Option Signal} {c : HandlerCall Unit}
    (h : (m.receive answer).call = some c) :
    ∃ s, answer = some s ∧ s.envelope? = some c.envelope := by
  cases answer with
  | none => simp [StreamManager.receive] at h
  | some s =>
      refine ⟨s, rfl, ?_⟩
      simp only [StreamManager.receive, StreamManager.dispatch] at h
      split at h
      · simp at h
      · cases s with
        | message channel data =>
            simp only [StreamManager.onMessage] at h
            cases henvelope : StreamManager.envelopeOf? channel data with
            | none => simp [henvelope] at h
            | some e =>
                have hcall : m.slot.invoke.2.map (fun called =>
                    (⟨called.1, e, called.2⟩ : HandlerCall Unit)) = some c := by
                  simp only [henvelope] at h
                  split at h <;> exact h
                obtain ⟨called, -, rfl⟩ := Option.map_eq_some_iff.mp hcall
                exact henvelope
        | _ => simp at h

/-- A signal changes what is known of the task by the envelope that it brings, or not at all. -/
theorem phase_receive (b : DetailBinder) (answer : Option Signal) :
    (b.receive answer).1.phase = b.phase ∨
      ∃ s t e, answer = some s ∧ s.envelope? = some e ∧ b.phase = .loaded t ∧
        (b.receive answer).1.phase = .loaded (t.apply e).1 := by
  cases hstream : b.stream with
  | none => exact .inl (by simp only [receive, hstream])
  | some m =>
      simp only [receive, hstream]
      split
      · rw [phase_evaluate]
        cases hcall : (m.receive answer).call with
        | none => exact .inl rfl
        | some c =>
            obtain ⟨s, hs, he⟩ := call_receive hcall
            cases hphase : b.phase with
            | loaded t => exact .inr ⟨s, t, c.envelope, hs, he, rfl, by simp [deliver]⟩
            | _ => exact .inl (by simp [deliver])
      · exact .inl rfl

end TaskMonitor.DetailBinder
