import TaskMonitor.Proofs.Detail.Following

/-! # Signals that are heard again

Of the signals of a stream those count that were not heard before, until one stops the stream. -/

namespace TaskMonitor

/-- A timeline that hears signals until one stops it. -/
structure Hearing where
  timeline : Timeline
  stopped : Bool

namespace Hearing

def start (t : Timeline) : Hearing := ⟨t, false⟩

def hear (h : Hearing) (s : Signal) : Hearing :=
  if h.stopped then h else ⟨h.timeline.hear s, decide (s.Stops h.timeline)⟩

def hearAll (h : Hearing) (signals : List Signal) : Hearing := signals.foldl hear h

theorem hearAll_append (h : Hearing) (xs ys : List Signal) :
    h.hearAll (xs ++ ys) = (h.hearAll xs).hearAll ys :=
  List.foldl_append

/-! ## Signals without effect -/

/-- The signal does nothing: the stream was stopped, or the signal brings nothing new. -/
def IsDeaf (h : Hearing) (s : Signal) : Prop :=
  h.stopped = true ∨
    s.closesStream = false ∧ ∀ e, s.envelope? = some e → ¬ h.timeline.Accepts e

theorem hear_of_isDeaf {h : Hearing} {s : Signal} (hs : h.IsDeaf s) : h.hear s = h := by
  obtain ⟨t, stopped⟩ := h
  rcases hs with hstopped | ⟨hopen, hnew⟩
  · exact if_pos hstopped
  · cases stopped with
    | true => rfl
    | false =>
        have hhear : t.hear s = t := by
          cases henvelope : s.envelope? with
          | none => simp [Timeline.hear, henvelope]
          | some e =>
              simpa [Timeline.hear, henvelope] using
                Timeline.apply_of_not_accepts (hnew e henvelope)
        have hgoes : ¬ s.Stops t := by
          rintro (hcloses | ⟨e, he, haccepts, -⟩)
          · simp [hopen] at hcloses
          · exact hnew e he haccepts
        simp [hear, hhear, hgoes]

theorem isDeaf_hear (h : Hearing) (s : Signal) : (h.hear s).IsDeaf s := by
  obtain ⟨t, stopped⟩ := h
  cases stopped with
  | true => exact .inl rfl
  | false =>
      by_cases hs : s.Stops t
      · exact .inl (by simp [hear, hs])
      · refine .inr ⟨?_, ?_⟩
        · simpa using fun hcloses => hs (.inl hcloses)
        · intro e he
          simpa [hear, Timeline.hear, he] using Timeline.not_accepts_apply t e

theorem IsDeaf.hear {h : Hearing} {s : Signal} (hs : h.IsDeaf s) (x : Signal) :
    (h.hear x).IsDeaf s := by
  obtain ⟨t, stopped⟩ := h
  cases stopped with
  | true => exact .inl rfl
  | false =>
      obtain ⟨hopen, hnew⟩ : s.closesStream = false ∧
          ∀ e, s.envelope? = some e → ¬ t.Accepts e := by
        simpa [IsDeaf] using hs
      refine .inr ⟨hopen, ?_⟩
      intro e he
      exact Timeline.not_accepts_applyAll_of_not_accepts (hnew e he) x.envelope?.toList

theorem IsDeaf.hearAll {h : Hearing} {s : Signal} (hs : h.IsDeaf s) (xs : List Signal) :
    (h.hearAll xs).IsDeaf s := by
  induction xs generalizing h with
  | nil => exact hs
  | cons x xs ih => exact ih (hs.hear x)

theorem isDeaf_hearAll {s : Signal} {xs : List Signal} (hs : s ∈ xs) (h : Hearing) :
    (h.hearAll xs).IsDeaf s := by
  induction xs generalizing h with
  | nil => simp at hs
  | cons x xs ih =>
      rcases List.mem_cons.mp hs with rfl | hs
      · exact (isDeaf_hear h s).hearAll xs
      · exact ih hs (h.hear x)

theorem hearAll_of_isDeaf {h : Hearing} {xs : List Signal} (hxs : ∀ s ∈ xs, h.IsDeaf s) :
    h.hearAll xs = h := by
  induction xs with
  | nil => rfl
  | cons x xs ih =>
      rw [hearAll, List.foldl_cons, hear_of_isDeaf (hxs x (.head _))]
      exact ih fun s hs => hxs s (.tail _ hs)

/-- What was heard before can come again. -/
theorem hearAll_again {xs ys : List Signal} (h : Hearing) (hys : ∀ s ∈ ys, s ∈ xs) :
    (h.hearAll xs).hearAll ys = h.hearAll xs :=
  hearAll_of_isDeaf fun s hs => isDeaf_hearAll (hys s hs) h

theorem isDeaf_opened (h : Hearing) : h.IsDeaf .opened := .inr ⟨rfl, by simp [Signal.envelope?]⟩

theorem isDeaf_interrupted (h : Hearing) : h.IsDeaf .interrupted :=
  .inr ⟨rfl, by simp [Signal.envelope?]⟩

end Hearing

/-! ## Views -/

namespace DetailBinder

def receiveAll (b : DetailBinder) (signals : List Signal) : DetailBinder :=
  signals.foldl (fun b s => (b.receive (some s)).1) b

variable {id : TaskId} {token : MountToken} {baseUrl : String} {t : Timeline}
  {status : StreamStatus} {changes : Nat}

theorem receiveAll_stopped {wanted : Bool} (signals : List Signal) :
    (stopped id token baseUrl t status changes wanted).receiveAll signals =
      stopped id token baseUrl t status changes wanted := by
  induction signals with
  | nil => rfl
  | cons s signals ih =>
      rw [receiveAll, List.foldl_cons, receive_stopped]
      exact ih

/-- The timeline of a view that follows its task is the one that hears the signals. -/
theorem timeline?_receiveAll (signals : List Signal) (hrun : t.isTerminal = false)
    (hstatus : status ≠ .closed) :
    ((following id token baseUrl t status changes).receiveAll signals).timeline? =
      some ((Hearing.start t).hearAll signals).timeline := by
  induction signals generalizing t status changes with
  | nil => rfl
  | cons s signals ih =>
      rw [receiveAll, List.foldl_cons, ← receiveAll, Hearing.hearAll, List.foldl_cons,
        ← Hearing.hearAll]
      by_cases hs : s.Stops t
      · obtain ⟨changes', wanted, hreceive⟩ :=
          receive_of_stops id token baseUrl status changes hrun hstatus hs
        have hstop : (Hearing.start t).hear s = ⟨t.hear s, true⟩ := by
          simp [Hearing.start, Hearing.hear, hs]
        rw [hreceive, receiveAll_stopped, hstop, Hearing.hearAll_of_isDeaf fun _ _ => .inl rfl]
        rfl
      · obtain ⟨hrun', changes', hreceive⟩ :=
          receive_of_not_stops id token baseUrl status changes hrun hs
        have hgo : (Hearing.start t).hear s = Hearing.start (t.hear s) := by
          simp [Hearing.start, Hearing.hear, hs]
        rw [hreceive, hgo]
        exact ih hrun' (Signal.statusAfter_ne_closed hstatus s)

end DetailBinder

end TaskMonitor
