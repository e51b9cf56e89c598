import TaskMonitor.Proofs.Threads.System

/-! # What the screen shows

The selection, the view, the task that is shown and its detail are changed by different keys and
reports. Whatever comes, and in whatever order, they fit together. -/

namespace TaskMonitor

/-! ## Selection -/

namespace UiState

/-- A row is selected, or the list is empty. -/
def SelectsRow (s : UiState) : Prop :=
  s.selected < s.tasks.length ∨ s.tasks = [] ∧ s.selected = 0

namespace SelectsRow

variable {s : UiState}

theorem congr {s' : UiState} (h : s.SelectsRow) (htasks : s'.tasks = s.tasks)
    (hselected : s'.selected = s.selected) : s'.SelectsRow := by
  rwa [SelectsRow, htasks, hselected]

theorem of_le {s' : UiState} (h : s.SelectsRow) (htasks : s'.tasks = s.tasks)
    (hselected : s'.selected ≤ s.selected) : s'.SelectsRow := by
  rw [SelectsRow, htasks]
  rcases h with hrow | ⟨hnil, hzero⟩
  · exact .inl (by omega)
  · exact .inr ⟨hnil, by omega⟩

theorem selectNext (h : s.SelectsRow) : s.selectNext.SelectsRow := by
  unfold UiState.selectNext
  split
  · exact h
  next hsome =>
    have hlength : 0 < s.tasks.length := List.length_pos_iff.mpr (by simpa using hsome)
    exact .inl (by simp only; omega)

end SelectsRow

theorem findIdx?_of_selected {s : UiState} {t : TaskSummary} {tasks : List TaskSummary}
    (hselected : s.selectedTask = some t) (hlisted : ∃ x ∈ tasks, x.id = t.id) :
    ∃ (i : Nat) (hi : i < tasks.length), tasks[i].id = t.id ∧ (s.setTasks tasks).selected = i := by
  have hfound : (tasks.findIdx? (·.id = t.id)).isSome = true := by
    simpa [List.findIdx?_isSome] using hlisted
  obtain ⟨i, hi⟩ := Option.isSome_iff_exists.mp hfound
  obtain ⟨hlt, hid, -⟩ := List.findIdx?_eq_some_iff_getElem.mp hi
  exact ⟨i, hlt, by simpa using hid, by simp [setTasks, hselected, hi]⟩

theorem selectedTask_setTasks {s : UiState} {t : TaskSummary} {tasks : List TaskSummary}
    (hselected : s.selectedTask = some t) (hlisted : ∃ x ∈ tasks, x.id = t.id) :
    ∃ x, (s.setTasks tasks).selectedTask = some x ∧ x.id = t.id := by
  obtain ⟨i, hi, hid, hrow⟩ := findIdx?_of_selected hselected hlisted
  refine ⟨tasks[i], ?_, hid⟩
  rw [selectedTask, hrow]
  exact List.getElem?_eq_getElem hi

theorem selectsRow_setTasks (s : UiState) (tasks : List TaskSummary) :
    (s.setTasks tasks).SelectsRow := by
  cases hfound : s.selectedTask.bind fun t => tasks.findIdx? (·.id = t.id) with
  | some i =>
      obtain ⟨t, -, hi⟩ := Option.bind_eq_some_iff.mp hfound
      have hlt : i < tasks.length := (List.findIdx?_eq_some_iff_getElem.mp hi).1
      exact .inl (by simpa [setTasks, hfound] using hlt)
  | none =>
      cases tasks with
      | nil => exact .inr ⟨rfl, by simp [setTasks]⟩
      | cons t tasks =>
          have hlast : min s.selected ((t :: tasks).length - 1) < (t :: tasks).length := by
            rw [List.length_cons]
            omega
          exact .inl (by simpa only [setTasks, hfound, Option.getD_none] using hlast)

end UiState

/-! ## Keys -/

namespace App

/-- The commands that a key hands to the sender: the ones that it leaves in an empty outbox. -/
def handed (s : UiState) (k : Key) : List Command := ((press ⟨s, []⟩ k).map App.outbox).getD []

theorem openSelected_eq (a : App) :
    a.openSelected =
      (openSelected ⟨a.state, []⟩).outbox.foldl send
        ⟨(openSelected ⟨a.state, []⟩).state, a.outbox⟩ := by
  cases ht : a.state.selectedTask with
  | none => simp [openSelected, ht]
  | some t =>
      simp only [openSelected, ht]
      rfl

theorem listKey_eq (a : App) (k : Key) :
    a.listKey k =
      (listKey ⟨a.state, []⟩ k).map fun b => b.outbox.foldl send ⟨b.state, a.outbox⟩ := by
  unfold listKey
  split
  case h_6 => exact congrArg some a.openSelected_eq
  all_goals rfl

theorem detailKey_eq (a : App) (k : Key) :
    a.detailKey k =
      (detailKey ⟨a.state, []⟩ k).outbox.foldl send
        ⟨(detailKey ⟨a.state, []⟩ k).state, a.outbox⟩ := by
  unfold detailKey
  split <;> rfl

theorem press_eq (a : App) (k : Key) :
    a.press k = (press ⟨a.state, []⟩ k).map fun b => b.outbox.foldl send ⟨b.state, a.outbox⟩ := by
  unfold press
  split
  · rfl
  · cases hview : a.state.view with
    | tasks => exact a.listKey_eq k
    | detail => exact congrArg some (a.detailKey_eq k)

theorem foldl_send_state (cs : List Command) (a : App) : (cs.foldl send a).state = a.state := by
  induction cs generalizing a with
  | nil => rfl
  | cons c cs ih => rw [List.foldl_cons, ih, send_state]

theorem keyed_press {a b : App} {k : Key} (h : a.press k = some b) :
    Keyed a.state b.state (handed a.state k) ∧
      b = (handed a.state k).foldl send ⟨b.state, a.outbox⟩ := by
  rw [press_eq, Option.map_eq_some_iff] at h
  obtain ⟨c, hpress, rfl⟩ := h
  obtain ⟨cs, hkeyed, houtbox⟩ := press_eq_some hpress
  obtain rfl : c.outbox = cs := by simpa [mailboxLimit] using houtbox
  have hhanded : handed a.state k = c.outbox := by simp [handed, hpress]
  rw [hhanded, foldl_send_state]
  exact ⟨hkeyed, rfl⟩

theorem selectsRow_listKey {a b : App} {k : Key} (h : a.listKey k = some b)
    (hrow : a.state.SelectsRow) : b.state.SelectsRow := by
  unfold listKey at h
  split at h
  · cases h
  all_goals obtain rfl := Option.some.inj h
  · exact hrow.of_le rfl (Nat.sub_le ..)
  · exact hrow.of_le rfl (Nat.sub_le ..)
  · exact hrow.selectNext
  · exact hrow.selectNext
  · unfold openSelected
    split
    · rw [send_state]
      exact hrow.congr rfl rfl
    · exact hrow
  · rwa [send_state]
  · rw [switchFilter, send_state]
    exact hrow.of_le rfl (Nat.zero_le _)
  · exact hrow

theorem selectsRow_detailKey {a : App} (k : Key) (hrow : a.state.SelectsRow) :
    (a.detailKey k).state.SelectsRow := by
  unfold detailKey
  split
  case h_1 | h_2 =>
    rw [closeTask, send_state]
    exact hrow.congr rfl rfl
  all_goals exact hrow.congr rfl rfl

theorem selectsRow_press {a b : App} {k : Key} (h : a.press k = some b)
    (hrow : a.state.SelectsRow) : b.state.SelectsRow := by
  unfold press at h
  split at h
  · cases h
  · split at h
    · exact selectsRow_listKey h hrow
    · obtain rfl := Option.some.inj h
      exact selectsRow_detailKey k hrow

theorem handed_enter (s : UiState) :
    handed s .enter =
      if s.view = .tasks then (s.selectedTask.map (.open ·.id)).toList else [] := by
  cases hview : s.view with
  | detail => simp [handed, press, hview, detailKey]
  | tasks =>
      cases ht : s.selectedTask <;>
        simp [handed, press, hview, listKey, openSelected, ht, update, send, mailboxLimit]

end App

/-! ## What fits together -/

namespace UiState

/-- The view, the task that is shown and its detail fit together. -/
structure Showing (s : UiState) : Prop where
  view : s.view = .detail ↔ s.viewing.isSome
  detail : ∀ d, s.detail = some d → s.viewing = some d.taskId

theorem Showing.openTask (s : UiState) (id : TaskId) : (s.openTask id).Showing :=
  ⟨by simp [UiState.openTask], by simp [UiState.openTask]⟩

theorem Showing.closeTask (s : UiState) : s.closeTask.Showing :=
  ⟨by simp [UiState.closeTask], by simp [UiState.closeTask]⟩

theorem Showing.congr {s s' : UiState} (h : s.Showing) (hview : s'.view = s.view)
    (hviewing : s'.viewing = s.viewing) (hdetail : s'.detail = s.detail) : s'.Showing :=
  ⟨by rw [hview, hviewing]; exact h.view, by rw [hviewing, hdetail]; exact h.detail⟩

theorem Showing.applyDetail {s : UiState} (h : s.Showing) (d : DetailView) :
    (s.applyDetail d).1.Showing := by
  unfold UiState.applyDetail
  split
  next hviewing => exact ⟨h.view, by rintro _ ⟨⟩; exact hviewing⟩
  next => exact h

end UiState

namespace Command

/-- The task that the command is to show, if it is about that: `none` is to show no task. -/
def shown? : Command → Option (Option TaskId)
  | .open id => some (some id)
  | .close => some none
  | .filter _ | .refresh | .quit => none

def filter? : Command → Option Filter
  | .filter f => some f
  | _ => none

/-- What the last of the commands tells that tell something, or else `initial`. -/
def last {α : Type} (tells : Command → Option α) (initial : α) (cs : List Command) : α :=
  (cs.filterMap tells).getLast?.getD initial

theorem last_append {α : Type} (tells : Command → Option α) (initial : α) (cs ds : List Command) :
    last tells initial (cs ++ ds) = last tells (last tells initial cs) ds := by
  simp only [last, List.filterMap_append, List.getLast?_append]
  cases (ds.filterMap tells).getLast? <;> rfl

end Command

namespace Keyed

variable {s s' : UiState} {cs : List Command}

theorem showing (h : Keyed s s' cs) (hs : s.Showing) : s'.Showing := by
  cases h with
  | looks hview hviewing hdetail hfilter => exact hs.congr hview hviewing hdetail
  | opens t => exact .openTask s t.id
  | closes => exact .closeTask s
  | filters => exact hs.congr rfl rfl rfl
  | refreshes => exact hs

theorem viewing_eq (h : Keyed s s' cs) : s'.viewing = Command.last Command.shown? s.viewing cs := by
  cases h with
  | looks hview hviewing hdetail hfilter => exact hviewing
  | _ => rfl

theorem filter_eq (h : Keyed s s' cs) : s'.filter = Command.last Command.filter? s.filter cs := by
  cases h with
  | looks hview hviewing hdetail hfilter => exact hfilter
  | _ => rfl

theorem detail_eq_none (h : Keyed s s' cs) (hshown : ∃ c ∈ cs, c.shown?.isSome) :
    s'.detail = none := by
  cases h with
  | opens | closes => rfl
  | _ => simp [Command.shown?] at hshown

end Keyed

inductive Occurrence where
  | key (k : Key)
  | report (r : Report)
  | fetch

/-- The screen, and the commands that were handed to the sender so far. -/
structure Trail where
  app : App
  handed : List Command

namespace Trail

def start (filter : Filter) (task : Option TaskId) : Trail := ⟨.new filter task, []⟩

/-- A key that leaves changes nothing. -/
def step (t : Trail) : Occurrence → Trail
  | .key k =>
    match t.app.press k with
    | some app => ⟨app, t.handed ++ App.handed t.app.state k⟩
    | none => t
  | .report r => { t with app := t.app.receive r }
  | .fetch => { t with app := { t.app with outbox := t.app.outbox.tail } }

def run (filter : Filter) (task : Option TaskId) (os : List Occurrence) : Trail :=
  os.foldl step (start filter task)

/-- What is drawn fits together, and fits the commands that were handed over. -/
structure Fits (filter : Filter) (task : Option TaskId) (t : Trail) : Prop where
  row : t.app.state.SelectsRow
  showing : t.app.state.Showing
  viewing : t.app.state.viewing = Command.last Command.shown? task t.handed
  filter : t.app.state.filter = Command.last Command.filter? filter t.handed

variable {filter : Filter} {task : Option TaskId} {t : Trail}

theorem fits_start (filter : Filter) (task : Option TaskId) :
    (start filter task).Fits filter task := by
  cases task with
  | none =>
      have hshowing : (start filter none).app.state.Showing :=
        ⟨by simp [start, App.new, UiState.empty], by simp [start, App.new, UiState.empty]⟩
      exact ⟨.inr ⟨rfl, rfl⟩, hshowing, rfl, rfl⟩
  | some id => exact ⟨.inr ⟨rfl, rfl⟩, .openTask _ id, rfl, rfl⟩

theorem Fits.receive (h : t.Fits filter task) (r : Report) :
    (t.step (.report r)).Fits filter task := by
  obtain ⟨hviewing, -, hfilter⟩ := t.app.receive_viewing r
  refine ⟨?_, ?_, hviewing.trans h.viewing, hfilter.trans h.filter⟩
  · cases r with
    | tasks tasks => exact t.app.state.selectsRow_setTasks tasks
    | detail d =>
        simp only [step, App.receive, App.update, UiState.applyDetail]
        split <;> exact h.row.congr rfl rfl
    | _ => exact h.row.congr rfl rfl
  · cases r with
    | detail d => exact h.showing.applyDetail d
    | _ => exact h.showing.congr rfl rfl rfl

theorem Fits.press (h : t.Fits filter task) (k : Key) : (t.step (.key k)).Fits filter task := by
  simp only [step]
  split
  next app hpress =>
    obtain ⟨hkeyed, -⟩ := App.keyed_press hpress
    exact {
      row := App.selectsRow_press hpress h.row
      showing := hkeyed.showing h.showing
      viewing := by rw [Command.last_append, ← h.viewing, hkeyed.viewing_eq]
      filter := by rw [Command.last_append, ← h.filter, hkeyed.filter_eq] }
  next => exact h

theorem Fits.step (h : t.Fits filter task) (o : Occurrence) : (t.step o).Fits filter task := by
  cases o with
  | key k => exact h.press k
  | report r => exact h.receive r
  | fetch => exact ⟨h.row, h.showing, h.viewing, h.filter⟩

theorem fits_run (filter : Filter) (task : Option TaskId) (os : List Occurrence) :
    (run filter task os).Fits filter task := by
  induction os using List.reverseRecOn with
  | nil => exact fits_start filter task
  | append_singleton os o ih =>
      rw [run, List.foldl_append]
      exact ih.step o

/-- What holds of the screen at any time, and of what may happen to it next. -/
structure Coherent (filter : Filter) (task : Option TaskId) (t : Trail) : Prop
    extends t.Fits filter task where
  /-- The key sends the commands that it hands over, and no others. -/
  sends (k : Key) (b : App) (h : t.app.press k = some b) :
    b = (App.handed t.app.state k).foldl App.send ⟨b.state, t.app.outbox⟩
  /-- A task that was just opened has no detail yet, and when it was closed none is left. -/
  fresh (k : Key) (h : ∃ c ∈ App.handed t.app.state k, c.shown?.isSome) :
    (t.step (.key k)).app.state.detail = none
  /-- A report of tasks replaces those that are listed, and the selection stays on a task that is
  still there. -/
  lists (tasks : List TaskSummary) : (t.step (.report (.tasks tasks))).app.state.tasks = tasks
  keeps (x : TaskSummary) (tasks : List TaskSummary) (hselected : t.app.state.selectedTask = some x)
    (hlisted : ∃ y ∈ tasks, y.id = x.id) :
    ∃ y, (t.step (.report (.tasks tasks))).app.state.selectedTask = some y ∧ y.id = x.id
  /-- In the list, Enter opens the selected task, if there is one. In the detail it does nothing. -/
  enter : App.handed t.app.state .enter =
    if t.app.state.view = .tasks then (t.app.state.selectedTask.map (.open ·.id)).toList else []

theorem Fits.coherent (h : t.Fits filter task) : t.Coherent filter task where
  toFits := h
  sends k b hpress := (App.keyed_press hpress).2
  fresh k hshown := by
    simp only [Trail.step]
    split
    next app hpress => exact (App.keyed_press hpress).1.detail_eq_none hshown
    next hpress =>
      rw [App.press_eq, Option.map_eq_none_iff] at hpress
      simp [App.handed, hpress] at hshown
  lists _ := rfl
  keeps x tasks hselected hlisted := UiState.selectedTask_setTasks hselected hlisted
  enter := App.handed_enter t.app.state

/-- Whatever keys and reports came, in whatever order, what is drawn fits together and fits the
commands that were handed over. At the start no detail is there. -/
theorem coherent_run (filter : Filter) (task : Option TaskId) (os : List Occurrence) :
    (run filter task os).Coherent filter task ∧ (start filter task).app.state.detail = none := by
  refine ⟨(fits_run filter task os).coherent, ?_⟩
  cases task <;> rfl

end Trail

end TaskMonitor
