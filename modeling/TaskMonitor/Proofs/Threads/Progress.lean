import TaskMonitor.Proofs.Threads.System

/-! # What the threads can do by themselves

A backend that is at a step goes on with it, until the step is done or a report finds no room. -/

namespace TaskMonitor

namespace Threads

/-- The backend has a report to make, and there is no room for it. -/
structure BackendBlocked (s : Threads) : Prop where
  waits : ∃ r rest, s.todo = .report r :: rest
  full : mailboxLimit ≤ s.reports.length

/-- The threads come from one state to the other by themselves. -/
def Reaches (s s' : Threads) : Prop :=
  ∃ more : List Move, (∀ m ∈ more, m.isOwn) ∧ more.foldl step s = s'

namespace Reaches

theorem refl (s : Threads) : Reaches s s := ⟨[], by simp, rfl⟩

theorem trans {s t u : Threads} (h : Reaches s t) (h' : Reaches t u) : Reaches s u := by
  obtain ⟨more, hmore, rfl⟩ := h
  obtain ⟨more', hmore', rfl⟩ := h'
  refine ⟨more ++ more', ?_, List.foldl_append⟩
  simpa [or_imp, forall_and] using ⟨hmore, hmore'⟩

theorem of_move {s s' : Threads} {m : Move} (hm : m.isOwn) (hstep : s.step m = s') :
    Reaches s s' :=
  ⟨[m], by simpa using hm, hstep⟩

end Reaches

structure Settles (s s' : Threads) : Prop where
  reached : Reaches s s'
  phase : s'.phase = s.phase
  stopped : s'.stopped = s.stopped
  received : s'.received = s.received
  outbox : s'.app.outbox = s.app.outbox

namespace Settles

theorem refl (s : Threads) : Settles s s := ⟨.refl s, rfl, rfl, rfl, rfl⟩

theorem trans {s t u : Threads} (h : Settles s t) (h' : Settles t u) : Settles s u :=
  ⟨h.reached.trans h'.reached, h'.phase.trans h.phase, h'.stopped.trans h.stopped,
    h'.received.trans h.received, h'.outbox.trans h.outbox⟩

theorem of_move {s s' : Threads} {m : Move} (hm : m.isOwn) (hstep : s.step m = s')
    (hphase : s'.phase = s.phase) (hstopped : s'.stopped = s.stopped)
    (hreceived : s'.received = s.received) (houtbox : s'.app.outbox = s.app.outbox) :
    Settles s s' :=
  ⟨.of_move hm hstep, hphase, hstopped, hreceived, houtbox⟩

end Settles

theorem settles_report {s : Threads} {r : Report} {rest : List Effect}
    (htodo : s.todo = .report r :: rest) :
    ∃ s', Settles s s' ∧ (s'.todo = rest ∨ s'.BackendBlocked ∧ s'.reports = s.reports) := by
  by_cases hroom : s.reports.length < mailboxLimit
  · refine ⟨{ s with reports := s.reports ++ [r], todo := rest }, ?_, .inl rfl⟩
    exact .of_move (m := .perform) rfl (by simp [step, perform, htodo, hroom]) rfl rfl rfl rfl
  · exact ⟨s, .refl s, .inr ⟨⟨⟨r, rest, htodo⟩, Nat.not_lt.1 hroom⟩, rfl⟩⟩

/-- The backend does the next thing, unless that is a report for which there is no room. -/
theorem settles_next {s : Threads} {e : Effect} {rest : List Effect} (htodo : s.todo = e :: rest) :
    ∃ s', Settles s s' ∧ (s'.todo = rest ∨ s'.BackendBlocked ∧ s'.reports = s.reports) := by
  have hanswered : ∀ r, e.isAnsweredBy r = true →
      ∃ s', Settles s s' ∧ (s'.todo = rest ∨ s'.BackendBlocked ∧ s'.reports = s.reports) := by
    intro r hr
    have hanswer : Settles s { s with todo := .report r :: rest } :=
      .of_move (m := .answer r) rfl (by simp [step, htodo, hr]) rfl rfl rfl rfl
    obtain ⟨s', hreported, hend⟩ := settles_report (s := { s with todo := .report r :: rest }) rfl
    exact ⟨s', hanswer.trans hreported, hend⟩
  have hperformed : ∀ loads, s.perform = { s with loads := loads, todo := rest } →
      ∃ s', Settles s s' ∧ (s'.todo = rest ∨ s'.BackendBlocked ∧ s'.reports = s.reports) :=
    fun loads hperform =>
      ⟨_, .of_move (m := .perform) rfl hperform rfl rfl rfl rfl, .inl rfl⟩
  cases e with
  | report r => exact settles_report htodo
  | checkHealth => exact hanswered (.health true) rfl
  | listTasks filter => exact hanswered (.tasks []) rfl
  | listSoon => exact hperformed s.loads (by simp [perform, htodo])
  | load token id => exact hperformed (s.loads ++ [(token, id)]) (by simp [perform, htodo])
  | channel request => exact hperformed s.loads (by simp [perform, htodo])

/-- The backend gets to the end of its step, or waits for room. -/
theorem settles_free_or_blocked (s : Threads) :
    ∃ s', Settles s s' ∧ (s'.todo = [] ∨ s'.BackendBlocked) := by
  generalize htodo : s.todo = todo
  induction todo generalizing s with
  | nil => exact ⟨s, .refl s, .inl htodo⟩
  | cons e rest ih =>
      obtain ⟨t, hnext, hrest | ⟨hblocked, -⟩⟩ := settles_next htodo
      · obtain ⟨s', hfree, hend⟩ := ih t hrest
        exact ⟨s', hnext.trans hfree, hend⟩
      · exact ⟨t, hnext, .inr hblocked⟩

/-- A backend that is between two steps can receive the command that has waited longest. -/
theorem reaches_obeyed {s : Threads} {c : Command} {rest : List Command} (hdone : s.todo = [])
    (hruns : s.stopped = false) (houtbox : s.app.outbox = c :: rest) :
    ∃ s', Reaches s s' ∧ s'.phase = s.phase ∧ s'.stopped = decide (c = .quit) ∧
      s'.received = s.received ++ [c] ∧ s'.app.outbox = rest := by
  have hobey : s.step .obey =
      { s.tell (.command c) with
        app := { s.app with outbox := rest }
        received := s.received ++ [c]
        stopped := c = .quit } := by
    simp [step, isFree, hdone, hruns, houtbox]
  exact ⟨_, .of_move rfl hobey, rfl, rfl, rfl, rfl⟩

theorem settles_taken {s : Threads} (hawake : s.phase = .awake) :
    ∃ s', Settles s s' ∧ s'.reports = [] ∧ s'.todo = s.todo := by
  generalize hreports : s.reports = reports
  induction reports generalizing s with
  | nil => exact ⟨s, .refl s, hreports, rfl⟩
  | cons r rest ih =>
      have htaken : Settles s { s with app := s.app.receive r, reports := rest } :=
        .of_move (m := .take) rfl (by simp [step, hawake, hreports]) rfl rfl rfl
          (s.app.receive_outbox r)
      obtain ⟨s', hsettles, hempty, htodo⟩ := ih (htaken.phase.trans hawake) rfl
      exact ⟨s', htaken.trans hsettles, hempty, htodo⟩

theorem settles_free {s : Threads} (hawake : s.phase = .awake) :
    ∃ s', Settles s s' ∧ s'.todo = [] := by
  generalize htodo : s.todo = todo
  induction todo generalizing s with
  | nil => exact ⟨s, .refl s, htodo⟩
  | cons e rest ih =>
      obtain ⟨t, htaken, hempty, ht⟩ := settles_taken hawake
      obtain ⟨u, hnext, hrest | ⟨hblocked, hfull⟩⟩ := settles_next (ht.trans htodo)
      · obtain ⟨s', hfree, hdone⟩ := ih (hnext.phase.trans (htaken.phase.trans hawake)) hrest
        exact ⟨s', htaken.trans (hnext.trans hfree), hdone⟩
      · -- no report waits, so there was room
        have hlimit := hblocked.full
        simp [hfull, hempty, mailboxLimit] at hlimit

end Threads

end TaskMonitor
