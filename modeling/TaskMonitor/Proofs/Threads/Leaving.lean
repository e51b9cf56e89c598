import TaskMonitor.Proofs.Detail.Rest
import TaskMonitor.Proofs.Threads.Progress

/-! # Leaving the program

The screen's thread waits until the backend's has ended, and takes no reports while it waits. -/

namespace TaskMonitor

namespace Threads

/-! ## Deadlock -/

structure HasEnded (s : Threads) : Prop where
  phase : s.phase = .joining
  stopped : s.stopped = true
  done : s.todo = []

/-- The screen's thread waits for room for its last command, or for the backend to end. -/
def ScreenWaits (s : Threads) : Prop :=
  s.phase = .leaving ∧ mailboxLimit ≤ s.app.outbox.length ∨ s.phase = .joining ∧ ¬ s.HasEnded

/-- Each thread waits for the other one. -/
structure Deadlocked (s : Threads) : Prop where
  screen : s.ScreenWaits
  backend : s.BackendBlocked

theorem BackendBlocked.todo_ne_nil {s : Threads} (h : s.BackendBlocked) : s.todo ≠ [] := by
  obtain ⟨r, rest, htodo⟩ := h.waits
  simp [htodo]

theorem BackendBlocked.deadlocked {s : Threads} (h : s.BackendBlocked)
    (hphase : s.phase = .joining) : s.Deadlocked :=
  ⟨.inr ⟨hphase, fun hended => h.todo_ne_nil hended.done⟩, h⟩

theorem Deadlocked.step_eq {s : Threads} (h : s.Deadlocked) (m : Move) : s.step m = s := by
  have hphase : s.phase ≠ .awake := by
    rcases h.screen with ⟨hphase, -⟩ | ⟨hphase, -⟩ <;> simp [hphase]
  have hbusy : s.isFree = false := by
    rw [Bool.eq_false_iff, ne_eq, isFree_iff]
    exact fun hfree => h.backend.todo_ne_nil hfree.1
  obtain ⟨r, rest, htodo⟩ := h.backend.waits
  cases m with
  | press key => simp [step, hphase]
  | take => simp [step, hphase]
  | fail => simp [step, hphase]
  | sendQuit =>
      refine if_neg ?_
      rintro ⟨hleaving, hroom⟩
      rcases h.screen with ⟨-, hfull⟩ | ⟨hjoining, -⟩
      · exact absurd hroom (Nat.not_lt.2 hfull)
      · simp [hleaving] at hjoining
  | obey => simp [step, hbusy]
  | tick => simp [step, hbusy]
  | loadEnds i result => simp [step, hbusy]
  | hear answer => simp [step, hbusy]
  | answer r => simp [step, htodo, Effect.isAnsweredBy]
  | perform => simp [step, perform, htodo, Nat.not_lt.2 h.backend.full]

/-! ## The end -/

/-- The user left by a key. -/
def HasLeft (s : Threads) : Prop :=
  s.phase = .leaving ∨ s.phase = .joining ∧ .quit ∈ s.received ++ s.app.outbox

/-- A backend that was told to stop, or is about to be told, stops or waits for room. -/
theorem stops_or_blocked {s : Threads} (hquit : s.stopped = true ∨ .quit ∈ s.app.outbox) :
    ∃ s', Reaches s s' ∧ s'.phase = s.phase ∧
      (s'.stopped = true ∧ s'.todo = [] ∨ s'.BackendBlocked) := by
  generalize houtbox : s.app.outbox = outbox at hquit
  induction outbox generalizing s with
  | nil =>
      obtain ⟨t, hfree, hdone | hblocked⟩ := s.settles_free_or_blocked
      · have hstopped : s.stopped = true := hquit.resolve_right (by simp)
        exact ⟨t, hfree.reached, hfree.phase, .inl ⟨hfree.stopped.trans hstopped, hdone⟩⟩
      · exact ⟨t, hfree.reached, hfree.phase, .inr hblocked⟩
  | cons c rest ih =>
      obtain ⟨t, hfree, hdone | hblocked⟩ := s.settles_free_or_blocked
      · by_cases hstopped : s.stopped = true
        · exact ⟨t, hfree.reached, hfree.phase, .inl ⟨hfree.stopped.trans hstopped, hdone⟩⟩
        · have hruns : t.stopped = false := by rw [hfree.stopped]; simpa using hstopped
          obtain ⟨u, hobeyed, hphase, hlast, -, hu⟩ :=
            reaches_obeyed hdone hruns (hfree.outbox.trans houtbox)
          have hnext : u.stopped = true ∨ .quit ∈ rest := by
            simpa [hlast, hstopped, eq_comm] using hquit
          obtain ⟨s', hreached, hkept, hend⟩ := ih hu hnext
          exact ⟨s', hfree.reached.trans (hobeyed.trans hreached),
            hkept.trans (hphase.trans hfree.phase), hend⟩
      · exact ⟨t, hfree.reached, hfree.phase, .inr hblocked⟩

theorem ends_or_deadlocks_joining {s : Threads} (hphase : s.phase = .joining)
    (hquit : s.stopped = true ∨ .quit ∈ s.app.outbox) :
    ∃ s', Reaches s s' ∧ (s'.HasEnded ∨ s'.Deadlocked) := by
  obtain ⟨s', hreached, hkept, ⟨hstopped, hdone⟩ | hblocked⟩ := stops_or_blocked hquit
  · exact ⟨s', hreached, .inl ⟨hkept.trans hphase, hstopped, hdone⟩⟩
  · exact ⟨s', hreached, .inr (hblocked.deadlocked (hkept.trans hphase))⟩

theorem ends_or_deadlocks_leaving {s : Threads} (hphase : s.phase = .leaving)
    (hruns : s.stopped = false) (hquit : .quit ∉ s.app.outbox) :
    ∃ s', Reaches s s' ∧ (s'.HasEnded ∨ s'.Deadlocked) := by
  have hsends : ∀ t : Threads, t.phase = .leaving → t.app.outbox.length < mailboxLimit →
      ∃ s', Reaches t s' ∧ (s'.HasEnded ∨ s'.Deadlocked) := by
    intro t ht hroom
    have hsend : t.step .sendQuit = { t with phase := .joining, app := t.app.send .quit } :=
      if_pos ⟨ht, hroom⟩
    obtain ⟨s', hreached, hend⟩ := ends_or_deadlocks_joining (s := t.step .sendQuit)
      (by rw [hsend]) (.inr (by rw [hsend]; simp [App.send_outbox, hroom]))
    exact ⟨s', .trans (.of_move rfl rfl) hreached, hend⟩
  generalize houtbox : s.app.outbox = outbox at hquit
  induction outbox generalizing s with
  | nil => exact hsends s hphase (by simp [houtbox, mailboxLimit])
  | cons c rest ih =>
      obtain ⟨hc, hrest⟩ : .quit ≠ c ∧ .quit ∉ rest := by simpa using hquit
      by_cases hroom : s.app.outbox.length < mailboxLimit
      · exact hsends s hphase hroom
      · -- the last command has no room before the backend receives one
        obtain ⟨t, hfree, hdone | hblocked⟩ := s.settles_free_or_blocked
        · obtain ⟨u, hobeyed, hkept, hlast, -, hu⟩ :=
            reaches_obeyed hdone (hfree.stopped.trans hruns) (hfree.outbox.trans houtbox)
          obtain ⟨s', hreached, hend⟩ := ih (hkept.trans (hfree.phase.trans hphase))
            (hlast.trans (decide_eq_false hc.symm)) hu hrest
          exact ⟨s', hfree.reached.trans (hobeyed.trans hreached), hend⟩
        · refine ⟨t, hfree.reached, .inr ⟨.inl ⟨hfree.phase.trans hphase, ?_⟩, hblocked⟩⟩
          rw [hfree.outbox]
          exact Nat.not_lt.1 hroom

theorem QuitsLast.ends_or_deadlocks {s : Threads} (h : s.QuitsLast) (hleft : s.HasLeft) :
    ∃ s', Reaches s s' ∧ (s'.HasEnded ∨ s'.Deadlocked) := by
  rcases hleft with hleaving | ⟨hjoining, hquit⟩
  · obtain ⟨hruns, hunsent⟩ := h.runs (by simp [hleaving])
    exact ends_or_deadlocks_leaving hleaving hruns hunsent
  · rw [List.mem_append, ← h.stopped] at hquit
    exact ends_or_deadlocks_joining hjoining hquit

/-! ## Room for what is still to be reported -/

end Threads

def Effect.isReported : Effect → Bool
  | .report _ | .checkHealth | .listTasks _ => true
  | .listSoon | .load .. | .channel _ => false

def Command.reports : Command → Nat
  | .refresh => 2
  | .filter _ | .open _ => 1
  | .close | .quit => 0

theorem Backend.reported_closeTask (b : Backend) :
    b.closeTask.2.countP Effect.isReported = 0 := by
  unfold closeTask
  split
  · rfl
  · simp [List.countP_map, Function.comp_def, Effect.isReported]

theorem Backend.reported_handle (b : Backend) (c : Command) :
    (b.handle (.command c)).2.countP Effect.isReported = c.reports := by
  have hclosing := b.reported_closeTask
  cases c with
  | refresh => rfl
  | filter f => rfl
  | «open» id =>
      simp only [handle, obey, openTask, List.countP_append, hclosing]
      rfl
  | close =>
      simp only [handle, obey, List.countP_append, hclosing]
      rfl
  | quit => exact hclosing

@[simp] theorem Effect.isReported_report (r : Report) : (Effect.report r).isReported = true := rfl

theorem Effect.isReported_of_isAnsweredBy {e : Effect} {r : Report}
    (h : e.isAnsweredBy r = true) : e.isReported = true := by
  cases e <;> first | rfl | simp [isAnsweredBy] at h

namespace Threads

/-- How many reports the backend will make of what it was told and of the commands that wait. -/
def due (s : Threads) : Nat :=
  s.todo.countP Effect.isReported + s.app.outbox.foldr (fun c n => c.reports + n) 0

/-- By themselves the threads make no more reports than are due. -/
theorem due_stepped {s s' : Threads} {m : Move} (hstep : Stepped s m s') (hm : m.isOwn) :
    s'.reports.length + s'.due ≤ s.reports.length + s.due := by
  cases hstep with
  | idles => exact Nat.le_refl _
  | presses => simp [Move.isOwn] at hm
  | leaves => simp [Move.isOwn] at hm
  | takes _ hreports => simp [due, hreports, App.receive_outbox]
  | fails => simp [Move.isOwn] at hm
  | quits _ hroom => simp [due, App.send_outbox, hroom, Command.reports]
  | obeys hdone _ houtbox => simp [due, tell, hdone, houtbox, Backend.reported_handle]
  | tells _ hother => simp [hother] at hm
  | answers htodo hanswer =>
      simp [due, htodo, List.countP_cons, Effect.isReported_of_isAnsweredBy hanswer]
  | reports htodo =>
      simp [due, htodo, List.countP_cons]
      omega
  | performs _ htodo => simp [due, htodo, List.countP_cons]

theorem due_reaches {s s' : Threads} (h : Reaches s s') :
    s'.reports.length + s'.due ≤ s.reports.length + s.due := by
  obtain ⟨more, hmore, rfl⟩ := h
  induction more generalizing s with
  | nil => exact Nat.le_refl _
  | cons m more ih =>
      obtain ⟨hm, hrest⟩ := List.forall_mem_cons.1 hmore
      exact Nat.le_trans (ih hrest) (due_stepped (s.stepped_step m) hm)

theorem BackendBlocked.lt_due {s : Threads} (h : s.BackendBlocked) :
    mailboxLimit < s.reports.length + s.due := by
  obtain ⟨r, rest, htodo⟩ := h.waits
  have hfull := h.full
  simp only [due, htodo, List.countP_cons, Effect.isReported_report, if_true]
  omega

/-! ## The result -/

/-- The threads end by themselves, or stop in a deadlock. There is none if the reports that are due
have room. -/
structure Leaves (s : Threads) : Prop where
  ends : ∃ s', Reaches s s' ∧ (s'.HasEnded ∨ s'.Deadlocked)
  stuck : ∀ s', Reaches s s' → s'.Deadlocked → ∀ m, s'.step m = s'
  room : s.reports.length + s.due ≤ mailboxLimit → ∃ s', Reaches s s' ∧ s'.HasEnded

/-- The program of a user who left by a key ends, but for a mailbox of reports that is full. -/
theorem leaves_run (baseUrl : String) (filter : Filter) (task : Option TaskId) (moves : List Move)
    (hleft : (run baseUrl filter task moves).HasLeft) :
    (run baseUrl filter task moves).Leaves := by
  have hends := (quitsLast_run baseUrl filter task moves).ends_or_deadlocks hleft
  refine ⟨hends, fun s' _ hdeadlocked => hdeadlocked.step_eq, fun hroom => ?_⟩
  obtain ⟨s', hreached, hended | hdeadlocked⟩ := hends
  · exact ⟨s', hreached, hended⟩
  · have hmore := hdeadlocked.backend.lt_due
    have hdue := due_reaches hreached
    omega

open DetailSession (runningSnapshot) in
def following : List Move :=
  [.answer (.health true), .perform, .perform, .perform,
    .loadEnds 0 (.ok (runningSnapshot ⟨"t1"⟩)), .perform, .perform, .take, .take, .take]

def notice : Signal := .message "notice" ""

/-- The user leaves while one report of the task waits and the next one is being made. -/
def leavingEarly : List Move :=
  following ++ [.hear (some notice), .perform, .hear (some notice), .press (.char 'q')]

theorem early_leave_ends :
    let s := run "http://gw" none (some ⟨"t1"⟩) leavingEarly
    s.backend.detail.map (·.isStreaming) = some true ∧ s.reports.length = 1 ∧ s.due = 1 ∧
      s.HasLeft ∧ s.Leaves ∧ ∃ s', Reaches s s' ∧ s'.HasEnded := by
  intro s
  have hwaiting : s.reports.length = 1 := rfl
  have hdue : s.due = 1 := rfl
  have hleft : s.HasLeft := .inl rfl
  have hleaves := leaves_run "http://gw" none (some ⟨"t1"⟩) leavingEarly hleft
  refine ⟨rfl, hwaiting, hdue, hleft, hleaves, hleaves.room ?_⟩
  rw [hwaiting, hdue]
  decide

/-! ## A burst of reports -/

theorem foldl_rounds {s : Threads} {round : List Move} {r : Report}
    (hround : ∀ reports : List Report, reports.length < mailboxLimit →
      round.foldl step { s with reports := reports } = { s with reports := reports ++ [r] })
    {n : Nat} {reports : List Report} (hn : reports.length + n ≤ mailboxLimit) :
    (List.replicate n round).flatten.foldl step { s with reports := reports } =
      { s with reports := reports ++ List.replicate n r } := by
  induction n generalizing reports with
  | zero => simp
  | succ n ih =>
      have hrest := @ih (reports ++ [r])
        (by simp only [List.length_append, List.length_singleton]; omega)
      rw [List.replicate_succ, List.flatten_cons, List.foldl_append, hround reports (by omega),
        hrest, List.append_assoc]
      rfl

theorem step_hear_idle {s : Threads} {d : DetailBinder} {answer : Option Signal}
    (hdone : s.todo = []) (hruns : s.stopped = false) (hdetail : s.backend.detail = some d)
    (hstreaming : d.isStreaming = true) (hsame : d.receive answer = (d, [])) :
    s.step (.hear answer) = { s with todo := [.report (.detail d.view)] } := by
  have hbackend : { s.backend with detail := some d } = s.backend := by rw [← hdetail]
  simp [step, isFree, hdone, hruns, hdetail, hstreaming, tell, Backend.handle, Backend.received,
    hsame, hbackend, Backend.publish]

/-- The answer of the subscription comes again and again, and then the user leaves. -/
def burst (answer : Option Signal) : List Move :=
  (List.replicate mailboxLimit [.hear answer, .perform]).flatten ++
    [.hear answer, .press (.char 'q'), .sendQuit]

/-- A burst of signals that the screen had no time to take ends in a deadlock. -/
theorem deadlocked_burst {s : Threads} {d : DetailBinder} {answer : Option Signal}
    (hawake : s.phase = .awake) (hdone : s.todo = []) (hruns : s.stopped = false)
    (houtbox : s.app.outbox = []) (hreports : s.reports = [])
    (hdetail : s.backend.detail = some d) (hstreaming : d.isStreaming = true)
    (hsame : d.receive answer = (d, [])) : ((burst answer).foldl step s).Deadlocked := by
  have hhear : ∀ reports : List Report, step { s with reports := reports } (.hear answer) =
      { s with reports := reports, todo := [.report (.detail d.view)] } := fun reports =>
    step_hear_idle (s := { s with reports := reports }) hdone hruns hdetail hstreaming hsame
  have hround : ∀ reports : List Report, reports.length < mailboxLimit →
      [.hear answer, .perform].foldl step { s with reports := reports } =
        { s with reports := reports ++ [.detail d.view] } := by
    intro reports hroom
    rw [List.foldl_cons, hhear]
    simp [step, perform, hroom, hdone]
  have hfull := @foldl_rounds s _ _ hround mailboxLimit [] (by simp)
  have hstart : { s with reports := [] } = s := by rw [← hreports]
  rw [hstart, List.nil_append] at hfull
  have hleaves : s.app.press (.char 'q') = none := if_pos rfl
  rw [burst, List.foldl_append, hfull, List.foldl_cons, hhear]
  have hend : [.press (.char 'q'), .sendQuit].foldl step
      { s with
        reports := List.replicate mailboxLimit (.detail d.view)
        todo := [.report (.detail d.view)] } =
      { s with
        reports := List.replicate mailboxLimit (.detail d.view)
        todo := [.report (.detail d.view)]
        phase := .joining
        app := s.app.send .quit } := by
    simp [step, hawake, hleaves, houtbox, mailboxLimit]
  rw [hend]
  exact BackendBlocked.deadlocked ⟨⟨_, _, rfl⟩, by simp⟩ rfl

/-- The terminal fails, and the list is refreshed again and again. -/
def neglect : List Move :=
  .fail :: (List.replicate mailboxLimit [.tick, .answer (.tasks []), .perform]).flatten ++
    [.tick, .answer (.tasks [])]

/-- A screen whose terminal failed takes no more reports, and the backend was not told to stop. -/
theorem deadlocked_neglect {s : Threads} (hawake : s.phase = .awake) (hdone : s.todo = [])
    (hruns : s.stopped = false) (hreports : s.reports = []) (hdetail : s.backend.detail = none) :
    (neglect.foldl step s).Deadlocked := by
  have hlists : ∀ reports : List Report,
      [.tick, .answer (.tasks [])].foldl step { s with phase := .joining, reports := reports } =
        { s with
          phase := .joining
          reports := reports
          todo := [.report (.tasks [])] } := by
    intro reports
    simp [step, isFree, hdone, hruns, tell, Backend.handle, Backend.tick, hdetail,
      Effect.isAnsweredBy]
  have hround : ∀ reports : List Report, reports.length < mailboxLimit →
      [.tick, .answer (.tasks []), .perform].foldl step
          { s with phase := .joining, reports := reports } =
        { s with phase := .joining, reports := reports ++ [.tasks []] } := by
    intro reports hroom
    have hlist := hlists reports
    rw [List.foldl_cons, List.foldl_cons, List.foldl_nil] at hlist
    rw [List.foldl_cons, List.foldl_cons, hlist]
    simp [step, perform, hroom, hdone]
  have hfull := @foldl_rounds { s with phase := .joining } _ _ hround mailboxLimit [] (by simp)
  have hfail : s.step .fail = { s with phase := .joining, reports := [] } := by
    rw [← hreports]
    exact if_pos hawake
  rw [neglect, List.cons_append, List.foldl_cons, List.foldl_append, hfail, hfull, hlists]
  exact BackendBlocked.deadlocked ⟨⟨_, _, rfl⟩, by simp⟩ rfl

/-- Both ways to leave can end in a deadlock. -/
theorem leaving_deadlocks :
    (run "http://gw" none (some ⟨"t1"⟩) (following ++ burst (some notice))).Deadlocked ∧
      (run "http://gw" none none ([.answer (.health true), .perform, .take] ++ neglect)).Deadlocked
    := by
  constructor
  · rw [run, List.foldl_append]
    exact deadlocked_burst rfl rfl rfl rfl rfl rfl rfl rfl
  · rw [run, List.foldl_append]
    exact deadlocked_neglect rfl rfl rfl rfl rfl

end Threads

end TaskMonitor
