import Mathlib.Data.List.Induction
import TaskMonitor.App.Basic
import TaskMonitor.Proofs.Backend.Navigation

/-! # The screen and the backend in two threads

Between them lie two mailboxes: the commands that wait for the backend, and the reports that wait
for the screen. Neither holds more than `mailboxLimit` messages. A command that finds its mailbox
full is dropped, and a report waits. -/

namespace TaskMonitor

/-! ## Keys -/

/-- What a key makes of the screen, and the commands that it sends. -/
inductive Keyed (s : UiState) : UiState → List Command → Prop where
  | looks {s' : UiState} (hview : s'.view = s.view) (hviewing : s'.viewing = s.viewing)
      (hdetail : s'.detail = s.detail) (hfilter : s'.filter = s.filter) : Keyed s s' []
  | opens (t : TaskSummary) (hview : s.view = .tasks) (ht : s.selectedTask = some t) :
      Keyed s (s.openTask t.id) [.open t.id]
  | closes (hview : s.view = .detail) : Keyed s s.closeTask [.close]
  | filters (hview : s.view = .tasks) :
      Keyed s { s with filter := s.filter.next, selected := 0 } [.filter s.filter.next]
  | refreshes : Keyed s s [.refresh]

namespace App

theorem update_cases (a : App) (f : UiState → UiState)
    (h : Keyed a.state (f a.state) []) :
    ∃ s cs, Keyed a.state s cs ∧ a.update f = cs.foldl send ⟨s, a.outbox⟩ :=
  ⟨f a.state, [], h, rfl⟩

theorem keyed_selectNext (s : UiState) : Keyed s s.selectNext [] := by
  unfold UiState.selectNext
  split <;> exact .looks rfl rfl rfl rfl

theorem openSelected_cases (a : App) (hview : a.state.view = .tasks) :
    ∃ s cs, Keyed a.state s cs ∧ a.openSelected = cs.foldl send ⟨s, a.outbox⟩ := by
  cases ht : a.state.selectedTask with
  | none => exact ⟨a.state, [], .looks rfl rfl rfl rfl, by simp [openSelected, ht]⟩
  | some t => exact ⟨_, _, .opens t hview ht, by simp [openSelected, ht, update]⟩

theorem listKey_cases (a : App) (hview : a.state.view = .tasks) (k : Key) :
    a.listKey k = none ∨ ∃ s cs, Keyed a.state s cs ∧
      a.listKey k = some (cs.foldl send ⟨s, a.outbox⟩) := by
  have hstay : ∀ b : App, (∃ s cs, Keyed a.state s cs ∧ b = cs.foldl send ⟨s, a.outbox⟩) →
      some b = none ∨ ∃ s cs, Keyed a.state s cs ∧
        some b = some (cs.foldl send ⟨s, a.outbox⟩) := by
    rintro _ ⟨s, cs, hkeyed, rfl⟩
    exact .inr ⟨s, cs, hkeyed, rfl⟩
  unfold listKey
  split
  · exact .inl rfl
  · exact hstay _ (a.update_cases _ (.looks rfl rfl rfl rfl))
  · exact hstay _ (a.update_cases _ (.looks rfl rfl rfl rfl))
  · exact hstay _ (a.update_cases _ (keyed_selectNext a.state))
  · exact hstay _ (a.update_cases _ (keyed_selectNext a.state))
  · exact hstay _ (a.openSelected_cases hview)
  · exact hstay _ ⟨_, _, .refreshes, rfl⟩
  · exact hstay _ ⟨_, _, .filters hview, rfl⟩
  · exact hstay _ (a.update_cases id (.looks rfl rfl rfl rfl))

theorem detailKey_cases (a : App) (hview : a.state.view = .detail) (k : Key) :
    ∃ s cs, Keyed a.state s cs ∧ a.detailKey k = cs.foldl send ⟨s, a.outbox⟩ := by
  unfold detailKey
  split
  · exact ⟨_, _, .closes hview, rfl⟩
  · exact ⟨_, _, .closes hview, rfl⟩
  all_goals first
    | exact a.update_cases _ (.looks rfl rfl rfl rfl)
    | exact a.update_cases id (.looks rfl rfl rfl rfl)

theorem press_cases (a : App) (k : Key) :
    a.press k = none ∨ ∃ s cs, Keyed a.state s cs ∧
      a.press k = some (cs.foldl send ⟨s, a.outbox⟩) := by
  unfold press
  split
  · exact .inl rfl
  · cases hview : a.state.view with
    | tasks => exact listKey_cases a hview k
    | detail =>
        obtain ⟨s, cs, hkeyed, hpress⟩ := detailKey_cases a hview k
        exact .inr ⟨s, cs, hkeyed, congrArg some hpress⟩

end App

/-! ## Commands that stand for changes -/

namespace Command

def isChange : Command → Bool
  | .open _ | .close | .filter _ => true
  | .refresh | .quit => false

def changes (cs : List Command) : List Command := cs.filter isChange

@[simp] theorem changes_append (cs ds : List Command) :
    changes (cs ++ ds) = changes cs ++ changes ds :=
  List.filter_append ..

/-- The commands that a change of the screen stands for: to open the task that is shown then, to
close the one that was shown, to list by another filter. -/
def ofChange (before after : UiState) : List Command :=
  (match before.view, after.view with
    | .tasks, .detail => (after.viewing.map .open).toList
    | .detail, .tasks => [.close]
    | _, _ => []) ++
  if after.filter = before.filter then [] else [.filter after.filter]

def navigate (shown : Option TaskId) : Command → Option TaskId
  | .open id => some id
  | .close | .quit => none
  | .refresh | .filter _ => shown

def refilter (filter : Filter) : Command → Filter
  | .filter f => f
  | _ => filter

end Command

theorem Filter.next_ne (f : Filter) : f.next ≠ f := by
  cases f with
  | none => decide
  | some s => cases s <;> decide

/-- A key sends the commands that its changes stand for, and else at most asks for a refresh. -/
theorem Keyed.changes_eq {s s' : UiState} {cs : List Command} (h : Keyed s s' cs) :
    Command.changes cs = Command.ofChange s s' := by
  cases h with
  | looks hview hviewing hdetail hfilter =>
      rw [Command.ofChange, hview, hfilter]
      cases s.view <;> simp [Command.changes]
  | opens t hview ht =>
      simp [Command.ofChange, UiState.openTask, hview, Command.changes, Command.isChange]
  | closes hview =>
      simp [Command.ofChange, UiState.closeTask, hview, Command.changes, Command.isChange]
  | filters hview =>
      simp [Command.ofChange, hview, Filter.next_ne, Command.changes, Command.isChange]
  | refreshes =>
      cases hview : s.view <;> simp [Command.ofChange, hview, Command.changes, Command.isChange]

theorem Keyed.foldl_eq {s s' : UiState} {cs : List Command} (h : Keyed s s' cs) :
    cs.foldl Command.navigate s.viewing = s'.viewing ∧
      cs.foldl Command.refilter s.filter = s'.filter := by
  cases h with
  | looks hview hviewing hdetail hfilter => exact ⟨hviewing.symm, hfilter.symm⟩
  | opens => exact ⟨rfl, rfl⟩
  | closes => exact ⟨rfl, rfl⟩
  | filters => exact ⟨rfl, rfl⟩
  | refreshes => exact ⟨rfl, rfl⟩

theorem Keyed.foldl_ofChange {s s' : UiState} {cs : List Command} (h : Keyed s s' cs) :
    (Command.ofChange s s').foldl Command.navigate s.viewing = s'.viewing ∧
      (Command.ofChange s s').foldl Command.refilter s.filter = s'.filter := by
  obtain ⟨hviewing, hfilter⟩ := h.foldl_eq
  rw [← h.changes_eq]
  cases h <;> exact ⟨hviewing, hfilter⟩

theorem Keyed.quit_not_mem {s s' : UiState} {cs : List Command} (h : Keyed s s' cs) :
    .quit ∉ cs := by
  cases h <;> simp

theorem App.send_state (a : App) (c : Command) : (a.send c).state = a.state := by
  unfold send
  split <;> rfl

theorem App.send_outbox (a : App) (c : Command) :
    (a.send c).outbox = if a.outbox.length < mailboxLimit then a.outbox ++ [c] else a.outbox := by
  unfold send
  split <;> rfl

/-- What a key that does not leave makes of the screen and of its outbox. The command of the key is
dropped when the outbox is full. -/
theorem App.press_eq_some {a app : App} {k : Key} (h : a.press k = some app) :
    ∃ cs, Keyed a.state app.state cs ∧
      app.outbox = if a.outbox.length < mailboxLimit then a.outbox ++ cs else a.outbox := by
  rcases a.press_cases k with hnone | ⟨s, cs, hkeyed, hsome⟩
  · simp [hnone] at h
  · obtain rfl := Option.some.inj (hsome.symm.trans h)
    have hsent : (cs.foldl App.send ⟨s, a.outbox⟩).state = s ∧
        (cs.foldl App.send ⟨s, a.outbox⟩).outbox =
          if a.outbox.length < mailboxLimit then a.outbox ++ cs else a.outbox := by
      cases hkeyed <;> simp [send_state, send_outbox]
    exact ⟨cs, by rwa [hsent.1], hsent.2⟩

/-! ## Reports -/

theorem App.receive_outbox (a : App) (r : Report) : (a.receive r).outbox = a.outbox := by
  cases r <;> rfl

theorem App.receive_viewing (a : App) (r : Report) :
    (a.receive r).state.viewing = a.state.viewing ∧ (a.receive r).state.view = a.state.view ∧
      (a.receive r).state.filter = a.state.filter := by
  cases r with
  | detail v =>
      simp only [receive, update, UiState.applyDetail]
      split <;> exact ⟨rfl, rfl, rfl⟩
  | _ => exact ⟨rfl, rfl, rfl⟩

/-! ## The threads -/

/-- What the screen's thread is at. -/
inductive ScreenPhase where
  | awake
  /-- The user left, and the last command is still to be sent. -/
  | leaving
  /-- It waits for the backend's thread to end, and takes no more reports. -/
  | joining
  deriving DecidableEq, Repr

/-- The two threads. The commands that wait are in the outbox of the screen. -/
structure Threads where
  app : App
  phase : ScreenPhase
  backend : Backend
  /-- What the backend has still to do of its step. -/
  todo : List Effect
  stopped : Bool
  reports : List Report
  /-- The loads that are under way. -/
  loads : List (MountToken × TaskId)
  /-- The commands that the changes of the screen stand for. -/
  meant : List Command
  received : List Command
  /-- A command was dropped that a change of the screen stands for. -/
  lost : Bool

def Effect.isAnsweredBy : Effect → Report → Bool
  | .checkHealth, .health _ => true
  | .listTasks _, .tasks _ => true
  | .listTasks _, .listError _ => true
  | _, _ => false

namespace Threads

inductive Move where
  | press (key : Key)
  | take
  /-- The terminal fails, and the screen's thread leaves without a word. -/
  | fail
  /-- The last command is sent, as soon as there is room for it. -/
  | sendQuit
  | obey
  | tick
  | loadEnds (i : Nat) (result : Except LoadError TaskSnapshot)
  | hear (answer : Option Signal)
  /-- The gateway answers the call that the backend waits for. -/
  | answer (report : Report)
  /-- The backend goes on with its step, unless it waits for an answer or for room. -/
  | perform

/-- The move is one that the program makes by itself, or an answer that it waits for. -/
def Move.isOwn : Move → Bool
  | .take | .sendQuit | .obey | .answer _ | .perform => true
  | .press _ | .fail | .tick | .loadEnds .. | .hear _ => false

def isFree (s : Threads) : Bool := s.todo.isEmpty && !s.stopped

def tell (s : Threads) (n : Notice) : Threads :=
  { s with backend := (s.backend.handle n).1, todo := (s.backend.handle n).2 }

def pressed (s : Threads) (app : App) : Threads :=
  { s with
    app := app
    meant := s.meant ++ Command.ofChange s.app.state app.state
    lost := s.lost || decide (Command.changes app.outbox ≠
      Command.changes s.app.outbox ++ Command.ofChange s.app.state app.state) }

def perform (s : Threads) : Threads :=
  match s.todo with
  | .report r :: rest =>
    if s.reports.length < mailboxLimit then { s with reports := s.reports ++ [r], todo := rest }
    else s
  | .load token id :: rest => { s with loads := s.loads ++ [(token, id)], todo := rest }
  | .listSoon :: rest | .channel _ :: rest => { s with todo := rest }
  | _ => s

/-- One move. One that cannot be made now changes nothing. -/
def step (s : Threads) : Move → Threads
  | .press key =>
    if s.phase = .awake then
      match s.app.press key with
      | some app => s.pressed app
      | none => { s with phase := .leaving }
    else s
  | .take =>
    match s.phase, s.reports with
    | .awake, r :: rest => { s with app := s.app.receive r, reports := rest }
    | _, _ => s
  | .fail => if s.phase = .awake then { s with phase := .joining } else s
  | .sendQuit =>
    if s.phase = .leaving ∧ s.app.outbox.length < mailboxLimit then
      { s with phase := .joining, app := s.app.send .quit }
    else s
  | .obey =>
    match s.isFree, s.app.outbox with
    | true, c :: rest =>
      { s.tell (.command c) with
        app := { s.app with outbox := rest }
        received := s.received ++ [c]
        stopped := c = .quit }
    | _, _ => s
  | .tick => if s.isFree then s.tell .tick else s
  | .loadEnds i result =>
    match s.isFree, s.loads[i]? with
    | true, some (token, _) => { s.tell (.loaded token result) with loads := s.loads.eraseIdx i }
    | _, _ => s
  | .hear answer =>
    if s.isFree ∧ s.backend.detail.any (·.isStreaming) then s.tell (.received answer) else s
  | .answer r =>
    match s.todo with
    | e :: rest => if e.isAnsweredBy r then { s with todo := .report r :: rest } else s
    | [] => s
  | .perform => s.perform

def start (baseUrl : String) (filter : Filter) (task : Option TaskId) : Threads :=
  let (backend, effects) := (Backend.new baseUrl filter).start task
  ⟨.new filter task, .awake, backend, effects, false, [], [], [], [], false⟩

def run (baseUrl : String) (filter : Filter) (task : Option TaskId) (moves : List Move) :
    Threads :=
  moves.foldl step (start baseUrl filter task)

/-- The backend is between two steps, and no message is on its way. -/
structure AtRest (s : Threads) : Prop where
  done : s.todo = []
  commands : s.app.outbox = []
  reports : s.reports = []

/-- What a move does. -/
inductive Stepped (s : Threads) : Move → Threads → Prop where
  | idles (m : Move) : Stepped s m s
  | presses {key : Key} {app : App} (hphase : s.phase = .awake)
      (hkey : s.app.press key = some app) : Stepped s (.press key) (s.pressed app)
  | leaves {key : Key} (hphase : s.phase = .awake) (hkey : s.app.press key = none) :
      Stepped s (.press key) { s with phase := .leaving }
  | takes {r : Report} {rest : List Report} (hphase : s.phase = .awake)
      (hreports : s.reports = r :: rest) :
      Stepped s .take { s with app := s.app.receive r, reports := rest }
  | fails (hphase : s.phase = .awake) : Stepped s .fail { s with phase := .joining }
  | quits (hphase : s.phase = .leaving) (hroom : s.app.outbox.length < mailboxLimit) :
      Stepped s .sendQuit { s with phase := .joining, app := s.app.send .quit }
  | obeys {c : Command} {rest : List Command} (hdone : s.todo = []) (hruns : s.stopped = false)
      (houtbox : s.app.outbox = c :: rest) :
      Stepped s .obey { s.tell (.command c) with
        app := { s.app with outbox := rest }
        received := s.received ++ [c]
        stopped := c = .quit }
  | tells {m : Move} {n : Notice} (loads : List (MountToken × TaskId)) (hm : m.isOwn = false)
      (hkey : ∀ key, m ≠ .press key) (hdone : s.todo = []) (hruns : s.stopped = false)
      (hn : ∀ c, n ≠ .command c) : Stepped s m { s.tell n with loads := loads }
  | answers {e : Effect} {r : Report} {rest : List Effect} (htodo : s.todo = e :: rest)
      (hanswer : e.isAnsweredBy r = true) :
      Stepped s (.answer r) { s with todo := .report r :: rest }
  | reports {r : Report} {rest : List Effect} (htodo : s.todo = .report r :: rest)
      (hroom : s.reports.length < mailboxLimit) :
      Stepped s .perform { s with reports := s.reports ++ [r], todo := rest }
  | performs {e : Effect} {rest : List Effect} (loads : List (MountToken × TaskId))
      (htodo : s.todo = e :: rest) (hreport : ∀ r, e ≠ .report r) :
      Stepped s .perform { s with loads := loads, todo := rest }

theorem isFree_iff {s : Threads} : s.isFree = true ↔ s.todo = [] ∧ s.stopped = false := by
  simp [isFree]

theorem stepped_perform (s : Threads) : Stepped s .perform s.perform := by
  unfold perform
  split
  next r rest htodo =>
    split
    · exact .reports htodo ‹_›
    · exact .idles _
  next htodo => exact .performs _ htodo (by simp)
  next htodo => exact .performs s.loads htodo (by simp)
  next htodo => exact .performs s.loads htodo (by simp)
  next => exact .idles _

theorem stepped_step (s : Threads) (m : Move) : Stepped s m (s.step m) := by
  cases m with
  | press key =>
      simp only [step]
      split
      next hphase =>
        split
        · exact .presses hphase ‹_›
        · exact .leaves hphase ‹_›
      next => exact .idles _
  | take =>
      simp only [step]
      split
      · exact .takes ‹_› ‹_›
      · exact .idles _
  | fail =>
      simp only [step]
      split
      · exact .fails ‹_›
      · exact .idles _
  | sendQuit =>
      simp only [step]
      split
      next h => exact .quits h.1 h.2
      next => exact .idles _
  | obey =>
      simp only [step]
      split
      next hfree houtbox =>
        obtain ⟨hdone, hruns⟩ := isFree_iff.1 hfree
        exact .obeys hdone hruns houtbox
      next => exact .idles _
  | tick =>
      simp only [step]
      split
      next hfree =>
        obtain ⟨hdone, hruns⟩ := isFree_iff.1 hfree
        exact .tells (n := .tick) s.loads rfl (by simp) hdone hruns (by simp)
      next => exact .idles _
  | loadEnds i result =>
      simp only [step]
      split
      next hfree _ =>
        obtain ⟨hdone, hruns⟩ := isFree_iff.1 hfree
        exact .tells _ rfl (by simp) hdone hruns (by simp)
      next => exact .idles _
  | hear answer =>
      simp only [step]
      split
      next h =>
        obtain ⟨hdone, hruns⟩ := isFree_iff.1 h.1
        exact .tells s.loads rfl (by simp) hdone hruns (by simp)
      next => exact .idles _
  | answer r =>
      simp only [step]
      split
      next htodo =>
        split
        · exact .answers htodo ‹_›
        · exact .idles _
      next => exact .idles _
  | perform => exact s.stepped_perform

/-- The last command is sent when the user has left, and the backend stops when it receives it. -/
structure QuitsLast (s : Threads) : Prop where
  stopped : s.stopped = true ↔ .quit ∈ s.received
  sent : .quit ∈ s.received ++ s.app.outbox → s.phase = .joining

theorem QuitsLast.runs {s : Threads} (h : s.QuitsLast) (hphase : s.phase ≠ .joining) :
    s.stopped = false ∧ .quit ∉ s.app.outbox := by
  have hnone := mt h.sent hphase
  rw [List.mem_append, not_or, ← h.stopped, Bool.not_eq_true] at hnone
  exact hnone

theorem QuitsLast.stepped {s s' : Threads} {m : Move} (h : s.QuitsLast)
    (hstep : Stepped s m s') : s'.QuitsLast := by
  cases hstep with
  | presses hphase hkey =>
      refine ⟨h.stopped, fun hquit => h.sent ?_⟩
      obtain ⟨cs, hkeyed, houtbox⟩ := App.press_eq_some hkey
      simp only [pressed, houtbox] at hquit
      split at hquit
      · simpa [hkeyed.quit_not_mem] using hquit
      · exact hquit
  | takes =>
      refine ⟨h.stopped, fun hquit => h.sent ?_⟩
      rwa [App.receive_outbox] at hquit
  | leaves hphase =>
      exact ⟨h.stopped, fun hquit => absurd (h.sent hquit) (by simp [hphase])⟩
  | fails => exact ⟨h.stopped, fun _ => rfl⟩
  | quits => exact ⟨h.stopped, fun _ => rfl⟩
  | obeys hdone hruns houtbox =>
      have hnone : .quit ∉ s.received := fun hquit => by simp [h.stopped.2 hquit] at hruns
      refine ⟨by simp [hnone, eq_comm], fun hquit => h.sent ?_⟩
      simpa [houtbox] using hquit
  | _ => exact ⟨h.stopped, h.sent⟩

theorem run_concat (baseUrl : String) (filter : Filter) (task : Option TaskId)
    (moves : List Move) (m : Move) :
    run baseUrl filter task (moves ++ [m]) = (run baseUrl filter task moves).step m := by
  simp [run]

theorem quitsLast_run (baseUrl : String) (filter : Filter) (task : Option TaskId)
    (moves : List Move) : (run baseUrl filter task moves).QuitsLast := by
  induction moves using List.reverseRecOn with
  | nil => cases task <;> exact ⟨by simp [run, start], by simp [run, start, App.new]⟩
  | append_singleton moves m ih =>
      rw [run_concat]
      exact ih.stepped (stepped_step _ m)

end Threads

end TaskMonitor
