import TaskMonitor.Proofs.Detail.Rest
import TaskMonitor.Proofs.Threads.Progress

/-! # What the backend is told

The screen changes before the command is sent that tells of the change. A command that finds its
mailbox full is dropped, and the change stays untold. -/

namespace TaskMonitor

open Command (changes ofChange)

namespace Threads

/-! ## Dropped commands -/

/-- The key changes what the screen shows or its filter, and there is no room for the command that
tells of it. -/
def Drops (s : Threads) (key : Key) : Prop :=
  s.phase = .awake ∧ mailboxLimit ≤ s.app.outbox.length ∧
    ∃ app, s.app.press key = some app ∧ ofChange s.app.state app.state ≠ []

theorem lost_press (s : Threads) (key : Key) :
    (s.step (.press key)).lost = true ↔ s.lost = true ∨ s.Drops key := by
  by_cases hphase : s.phase = .awake
  · cases hkey : s.app.press key with
    | none => simp [step, hphase, hkey, Drops]
    | some app =>
        obtain ⟨cs, hkeyed, houtbox⟩ := App.press_eq_some hkey
        have hchanges := hkeyed.changes_eq
        by_cases hroom : s.app.outbox.length < mailboxLimit
        · rw [if_pos hroom] at houtbox
          simp [step, hphase, hkey, Drops, pressed, houtbox, hchanges, Nat.not_le.2 hroom]
        · rw [if_neg hroom] at houtbox
          simp [step, hphase, hkey, Drops, pressed, houtbox, Nat.not_lt.1 hroom]
  · simp [step, hphase, Drops]

theorem lost_step {m : Move} (hm : ∀ key, m ≠ .press key) (s : Threads) :
    (s.step m).lost = s.lost := by
  have hstep := s.stepped_step m
  generalize s.step m = s' at hstep ⊢
  cases hstep with
  | presses => exact absurd rfl (hm _)
  | _ => rfl

/-- A change was lost exactly if it was made by a key that found the mailbox full. -/
theorem lost_run (baseUrl : String) (filter : Filter) (task : Option TaskId) (moves : List Move) :
    (run baseUrl filter task moves).lost = true ↔
      ∃ before key, before ++ [.press key] <+: moves ∧
        (run baseUrl filter task before).Drops key := by
  induction moves using List.reverseRecOn with
  | nil => cases task <;> simp [run, start]
  | append_singleton moves m ih =>
      rw [run_concat]
      by_cases hm : ∃ key, m = .press key
      · obtain ⟨key, rfl⟩ := hm
        rw [lost_press, ih]
        constructor
        · rintro (⟨before, earlier, hbefore, hdrops⟩ | hdrops)
          · exact ⟨before, earlier, hbefore.trans (List.prefix_append ..), hdrops⟩
          · exact ⟨moves, key, List.prefix_rfl, hdrops⟩
        · rintro ⟨before, earlier, hbefore, hdrops⟩
          rcases List.prefix_concat_iff.1 hbefore with heq | hbefore
          · obtain ⟨rfl, hearlier⟩ := List.append_inj' heq rfl
            obtain rfl : earlier = key := by simpa using hearlier
            exact .inr hdrops
          · exact .inl ⟨before, earlier, hbefore, hdrops⟩
      · -- the last move is no key, so the keys are the same as before
        rw [lost_step (fun key hkey => hm ⟨key, hkey⟩), ih]
        refine exists₂_congr fun before key => and_congr_left' ?_
        rw [List.prefix_concat_iff, or_iff_right]
        intro heq
        exact hm ⟨key, by simpa using (List.append_inj' heq rfl).2.symm⟩

/-! ## What the commands say -/

/-- What the screen shows follows from the commands that its changes stand for, and the backend is
told no others. -/
structure Ledger (filter : Filter) (task : Option TaskId) (s : Threads) : Prop where
  viewing : s.app.state.viewing = s.meant.foldl Command.navigate task
  filter : s.app.state.filter = s.meant.foldl Command.refilter filter
  told : (changes (s.received ++ s.app.outbox)).Sublist s.meant
  whole : s.lost = false → changes (s.received ++ s.app.outbox) = s.meant

theorem ledger_start (baseUrl : String) (filter : Filter) (task : Option TaskId) :
    (start baseUrl filter task).Ledger filter task := by
  cases task <;> exact ⟨rfl, rfl, List.nil_sublist _, fun _ => rfl⟩

namespace Ledger

variable {s : Threads} {filter : Filter} {task : Option TaskId}

theorem of_commands {s' : Threads} (h : s.Ledger filter task)
    (hviewing : s'.app.state.viewing = s.app.state.viewing)
    (hfilter : s'.app.state.filter = s.app.state.filter)
    (hcommands : changes (s'.received ++ s'.app.outbox) = changes (s.received ++ s.app.outbox))
    (hmeant : s'.meant = s.meant) (hlost : s'.lost = s.lost) : s'.Ledger filter task where
  viewing := by rw [hviewing, hmeant, h.viewing]
  filter := by rw [hfilter, hmeant, h.filter]
  told := by rw [hcommands, hmeant]; exact h.told
  whole := by rw [hcommands, hmeant, hlost]; exact h.whole

theorem pressed (h : s.Ledger filter task) {app : App} {cs : List Command}
    (hkeyed : Keyed s.app.state app.state cs)
    (houtbox : app.outbox =
      if s.app.outbox.length < mailboxLimit then s.app.outbox ++ cs else s.app.outbox) :
    (s.pressed app).Ledger filter task := by
  obtain ⟨hviewing, hfilter⟩ := hkeyed.foldl_ofChange
  refine
    { viewing := by rw [Threads.pressed, List.foldl_append, ← h.viewing, hviewing]
      filter := by rw [Threads.pressed, List.foldl_append, ← h.filter, hfilter]
      told := ?_
      whole := fun hkept => ?_ }
  · show (changes (s.received ++ app.outbox)).Sublist (s.meant ++ ofChange s.app.state app.state)
    rw [houtbox, ← hkeyed.changes_eq]
    split
    · rw [← List.append_assoc, Command.changes_append]
      exact h.told.append (List.Sublist.refl _)
    · exact h.told.trans (List.sublist_append_left ..)
  · obtain ⟨hbefore, hsent⟩ := Bool.or_eq_false_iff.1 hkept
    have hsent := not_not.1 (of_decide_eq_false hsent)
    show changes (s.received ++ app.outbox) = s.meant ++ ofChange s.app.state app.state
    rw [Command.changes_append, hsent, ← List.append_assoc, ← Command.changes_append,
      h.whole hbefore]

theorem stepped (h : s.Ledger filter task) {s' : Threads} {m : Move} (hstep : Stepped s m s') :
    s'.Ledger filter task := by
  cases hstep with
  | presses hphase hkey =>
      obtain ⟨cs, hkeyed, houtbox⟩ := App.press_eq_some hkey
      exact h.pressed hkeyed houtbox
  | takes =>
      obtain ⟨hviewing, -, hfilter⟩ := s.app.receive_viewing _
      exact h.of_commands hviewing hfilter (by rw [App.receive_outbox]) rfl rfl
  | quits hphase hroom =>
      refine h.of_commands (by rw [App.send_state]) (by rw [App.send_state]) ?_ rfl rfl
      rw [App.send_outbox, if_pos hroom, ← List.append_assoc, Command.changes_append]
      exact List.append_nil _
  | obeys hdone hruns houtbox =>
      exact h.of_commands rfl rfl (by rw [houtbox, List.append_assoc]; rfl) rfl rfl
  | _ => exact h.of_commands rfl rfl rfl rfl rfl

end Ledger

theorem ledger_run (baseUrl : String) (filter : Filter) (task : Option TaskId)
    (moves : List Move) : (run baseUrl filter task moves).Ledger filter task := by
  induction moves using List.reverseRecOn with
  | nil => exact ledger_start baseUrl filter task
  | append_singleton moves m ih =>
      rw [run_concat]
      exact ih.stepped (stepped_step _ m)

/-! ## Waiting commands are received -/

/-- As long as the screen takes reports, the backend can receive the commands that wait. -/
theorem exists_receipt {s : Threads} (hawake : s.phase = .awake) (hruns : s.stopped = false)
    (hquit : .quit ∉ s.app.outbox) :
    ∃ s', Reaches s s' ∧ s'.app.outbox = [] ∧ s'.received = s.received ++ s.app.outbox := by
  generalize houtbox : s.app.outbox = outbox at hquit ⊢
  induction outbox generalizing s with
  | nil => exact ⟨s, .refl s, houtbox, by simp⟩
  | cons c rest ih =>
      obtain ⟨hc, hrest⟩ : .quit ≠ c ∧ .quit ∉ rest := by simpa using hquit
      obtain ⟨t, hfree, hdone⟩ := settles_free hawake
      obtain ⟨u, hobeyed, hphase, hstopped, hlast, hu⟩ :=
        reaches_obeyed hdone (hfree.stopped.trans hruns) (hfree.outbox.trans houtbox)
      obtain ⟨s', hreached, hnone, hreceived⟩ :=
        ih (hphase.trans (hfree.phase.trans hawake))
          (hstopped.trans (decide_eq_false hc.symm)) hu hrest
      refine ⟨s', hfree.reached.trans (hobeyed.trans hreached), hnone, ?_⟩
      rw [hreceived, hlast, hfree.received, List.append_assoc]
      rfl

/-! ## The result -/

structure Delivers (filter : Filter) (task : Option TaskId) (s : Threads) : Prop where
  /-- What it received and what still waits is what the changes stand for. -/
  commands : changes (s.received ++ s.app.outbox) = s.meant
  viewing : s.app.state.viewing =
    (changes (s.received ++ s.app.outbox)).foldl Command.navigate task
  filter : s.app.state.filter =
    (changes (s.received ++ s.app.outbox)).foldl Command.refilter filter
  /-- What waits can be received, whatever the backend is at. -/
  receipt : s.phase = .awake →
    ∃ s', Reaches s s' ∧ s'.app.outbox = [] ∧ s'.received = s.received ++ s.app.outbox

/-- As long as no key is pressed for whose command there is no room, the backend is told of every
change that a key makes. The task that is open at the start needs no command. -/
theorem delivers_run (baseUrl : String) (filter : Filter) (task : Option TaskId)
    (moves : List Move)
    (hroom : ∀ before key, before ++ [.press key] <+: moves →
      ¬ (run baseUrl filter task before).Drops key) :
    (run baseUrl filter task moves).Delivers filter task := by
  have hledger := ledger_run baseUrl filter task moves
  have hquits := quitsLast_run baseUrl filter task moves
  have hkept : (run baseUrl filter task moves).lost = false := by
    rw [Bool.eq_false_iff, ne_eq, lost_run]
    rintro ⟨before, key, hbefore, hdrops⟩
    exact hroom before key hbefore hdrops
  generalize run baseUrl filter task moves = s at hledger hquits hkept ⊢
  have hcommands := hledger.whole hkept
  exact
    { commands := hcommands
      viewing := by rw [hcommands, hledger.viewing]
      filter := by rw [hcommands, hledger.filter]
      receipt := fun hawake => by
        obtain ⟨hruns, hquit⟩ := hquits.runs (by simp [hawake])
        exact exists_receipt hawake hruns hquit }

theorem early_keys_delivered :
    let moves : List Move := [.press .escape, .press (.char 'f'), .press (.char 'r')]
    (∀ before key, before ++ [.press key] <+: moves →
        ¬ (run "http://gw" none (some ⟨"t1"⟩) before).Drops key) ∧
      (run "http://gw" none (some ⟨"t1"⟩) moves).Delivers none (some ⟨"t1"⟩) ∧
      (run "http://gw" none (some ⟨"t1"⟩) moves).received = [] ∧
      (run "http://gw" none (some ⟨"t1"⟩) moves).meant = [.close, .filter (some .created)] := by
  intro moves
  have hkept : (run "http://gw" none (some ⟨"t1"⟩) moves).lost = false := rfl
  have hroom : ∀ before key, before ++ [.press key] <+: moves →
      ¬ (run "http://gw" none (some ⟨"t1"⟩) before).Drops key := by
    intro before key hbefore hdrops
    have hlost := (lost_run "http://gw" none (some ⟨"t1"⟩) moves).2 ⟨before, key, hbefore, hdrops⟩
    simp [hkept] at hlost
  exact ⟨hroom, delivers_run "http://gw" none (some ⟨"t1"⟩) moves hroom, rfl, rfl⟩

/-! ## A full mailbox -/

/-- The screen shows the task `t1`, and the backend was never told. Some requests for a refresh
wait. -/
structure Separated (waiting : Nat) (s : Threads) : Prop where
  phase : s.phase = .awake
  todo : s.todo = []
  stopped : s.stopped = false
  reports : s.reports = []
  outbox : s.app.outbox = List.replicate waiting .refresh
  viewing : s.app.state.viewing = some ⟨"t1"⟩
  detail : s.backend.detail = none
  received : changes s.received = []
  meant : s.meant = [.open ⟨"t1"⟩]

open DetailSession (runningSnapshot) in
def refreshing : List Move :=
  [.obey, .answer (.health true), .perform,
    .answer (.tasks [(runningSnapshot ⟨"t1"⟩).task.summary]), .perform, .take, .take]

theorem Separated.refreshed {n : Nat} {s : Threads} (h : s.Separated (n + 1)) :
    (refreshing.foldl step s).Separated n := by
  -- the fields are made explicit, so that the moves of the round compute
  obtain ⟨⟨state, outbox⟩, phase, backend, todo, stopped, reports, loads, meant, received, lost⟩ :=
    s
  obtain ⟨hphase, htodo, hstopped, hreports, houtbox, hviewing, hdetail, hreceived, hmeant⟩ := h
  dsimp only at hphase htodo hstopped hreports houtbox hviewing hdetail hreceived hmeant
  subst hphase htodo hstopped hreports
  rw [List.replicate_succ] at houtbox
  subst houtbox
  have hround : ∃ r r' : Report, refreshing.foldl step
      ⟨⟨state, .refresh :: List.replicate n .refresh⟩, .awake, backend, [], false, [], loads, meant,
        received, lost⟩ =
      ⟨(App.receive ⟨state, List.replicate n .refresh⟩ r).receive r', .awake, backend, [], false,
        [], loads, meant, received ++ [.refresh], lost⟩ := ⟨.health true, .tasks _, rfl⟩
  obtain ⟨r, r', hround⟩ := hround
  rw [hround]
  exact
    { phase := rfl
      todo := rfl
      stopped := rfl
      reports := rfl
      outbox := by rw [App.receive_outbox, App.receive_outbox]
      viewing := by rw [(App.receive_viewing _ _).1, (App.receive_viewing _ _).1, hviewing]
      detail := hdetail
      received := by
        rw [Command.changes_append, hreceived]
        rfl
      meant := hmeant }

theorem Separated.caughtUp {n : Nat} {s : Threads} (h : s.Separated n) :
    ((List.replicate n refreshing).flatten.foldl step s).Separated 0 := by
  induction n generalizing s with
  | zero => exact h
  | succ n ih =>
      rw [List.replicate_succ, List.flatten_cons, List.foldl_append]
      exact ih h.refreshed

theorem step_refresh {s : Threads} (hawake : s.phase = .awake) (hview : s.app.state.view = .tasks) :
    s.step (.press (.char 'r')) = { s with app := s.app.send .refresh } := by
  have hkey : s.app.press (.char 'r') = some (s.app.send .refresh) := by
    simp [App.press, hview, App.listKey]
  have hchange : ofChange s.app.state s.app.state = [] := by simp [Command.ofChange, hview]
  have hsent : changes (s.app.send .refresh).outbox = changes s.app.outbox := by
    rw [App.send_outbox]
    split
    · exact Command.changes_append .. |>.trans (List.append_nil _)
    · rfl
  simp only [step, hawake, if_true, hkey, pressed, App.send_state, hchange, hsent,
    List.append_nil, ne_eq, not_true_eq_false, decide_false, Bool.or_false]

theorem refreshes_wait {s : Threads} (hawake : s.phase = .awake)
    (hview : s.app.state.view = .tasks) {n : Nat} (hroom : s.app.outbox.length + n ≤ mailboxLimit) :
    (List.replicate n (.press (.char 'r'))).foldl step s =
      { s with app := { s.app with outbox := s.app.outbox ++ List.replicate n .refresh } } := by
  induction n generalizing s with
  | zero => simp
  | succ n ih =>
      have hsend : s.app.send .refresh = { s.app with outbox := s.app.outbox ++ [.refresh] } :=
        if_pos (by omega)
      have hwait := ih
        (s := { s with app := { s.app with outbox := s.app.outbox ++ [.refresh] } }) hawake hview
        (by simp only [List.length_append, List.length_singleton]; omega)
      rw [List.replicate_succ, List.foldl_cons, step_refresh hawake hview, hsend, hwait,
        List.append_assoc]
      rfl

open DetailSession (runningSnapshot) in
def listing : List Move :=
  [.answer (.health true), .perform, .tick,
    .answer (.tasks [(runningSnapshot ⟨"t1"⟩).task.summary]), .perform, .take, .take, .tick]

open DetailSession (runningSnapshot) in
/-- While the backend lists, the user asks for refreshes until no more can wait, and opens the task.
Then the backend catches up. -/
def overflowing : List Move :=
  listing ++ List.replicate mailboxLimit (.press (.char 'r')) ++
    [.press .enter, .answer (.tasks [(runningSnapshot ⟨"t1"⟩).task.summary]), .perform, .take] ++
    (List.replicate mailboxLimit refreshing).flatten

theorem separated_overflowing : (run "http://gw" none none overflowing).Separated 0 := by
  rw [run, overflowing, List.foldl_append, List.foldl_append, List.foldl_append]
  apply Separated.caughtUp
  -- the mailbox is full now, and the command that opens the task finds no room
  rw [refreshes_wait rfl rfl (Nat.le_of_eq rfl)]
  exact
    { phase := rfl
      todo := rfl
      stopped := rfl
      reports := rfl
      outbox := rfl
      viewing := rfl
      detail := rfl
      received := rfl
      meant := rfl }

/-- Not every task that is shown has its command. The one of the start needs none; and a user who
opens a task while the mailbox is full waits for one that the backend was never told to open. -/
theorem task_shown_untold :
    (start "http://gw" none (some ⟨"t1"⟩)).app.state.viewing = some ⟨"t1"⟩ ∧
      (start "http://gw" none (some ⟨"t1"⟩)).received ++
        (start "http://gw" none (some ⟨"t1"⟩)).app.outbox = [] ∧
      (run "http://gw" none none overflowing).phase = .awake ∧
      (run "http://gw" none none overflowing).AtRest ∧
      (run "http://gw" none none overflowing).app.state.viewing = some ⟨"t1"⟩ ∧
      (run "http://gw" none none overflowing).backend.detail = none ∧
      (run "http://gw" none none overflowing).meant = [.open ⟨"t1"⟩] ∧
      changes (run "http://gw" none none overflowing).received = [] := by
  have h := separated_overflowing
  exact ⟨rfl, rfl, h.phase, ⟨h.todo, h.outbox, h.reports⟩, h.viewing, h.detail, h.meant, h.received⟩

end Threads

end TaskMonitor
