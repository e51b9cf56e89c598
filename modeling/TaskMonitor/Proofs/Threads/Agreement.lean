import TaskMonitor.Proofs.Detail.Phase
import TaskMonitor.Proofs.Detail.Rest
import TaskMonitor.Proofs.Threads.System

/-! # The screen and the backend agree when nothing is on its way

Commands and reports cross each other, so the screen may be sent views of a task that it has left.
What counts is what both would show if nothing else happened but that the messages on their way
arrived. -/

namespace TaskMonitor

open Effect (views)

/-! ## What messages would do -/

namespace Command

def navigates : Command → Bool
  | .open _ | .close | .quit => true
  | .refresh | .filter _ => false

theorem foldl_navigate_eq {cs : List Command} (h : ∀ c ∈ cs, c.navigates = false)
    (shown : Option TaskId) : cs.foldl navigate shown = shown := by
  induction cs with
  | nil => rfl
  | cons c cs ih =>
      have hc : navigate shown c = shown := by
        have := h c (List.mem_cons_self ..)
        cases c <;> first | rfl | simp [navigates] at this
      rw [List.foldl_cons, hc]
      exact ih fun d hd => h d (List.mem_cons_of_mem _ hd)

end Command

def Report.view? : Report → Option DetailView
  | .detail v => some v
  | _ => none

/-- What a screen comes to show that is sent views. -/
def UiState.settle (s : UiState) (vs : List DetailView) : Option DetailView :=
  vs.foldl (fun shown v => if s.viewing = some v.taskId then some v else shown) s.detail

namespace UiState

theorem settle_append_of_taskId {s : UiState} (vs : List DetailView) {v : DetailView}
    (h : s.viewing = some v.taskId) : s.settle (vs ++ [v]) = some v := by
  simp [settle, h]

theorem settle_of_viewing_none {s : UiState} (h : s.viewing = none) (vs : List DetailView) :
    s.settle vs = s.detail := by
  rw [settle]
  induction vs with
  | nil => rfl
  | cons v vs ih =>
      rw [List.foldl_cons, if_neg (by simp [h])]
      exact ih

theorem settle_reported {s : UiState} {d : Option DetailBinder} (vs : List DetailView)
    (hviewing : d.map (·.taskId) = s.viewing) (hblank : s.viewing = none → s.detail = none) :
    s.settle (vs ++ (d.map (·.view)).toList) = d.map (·.view) := by
  cases d with
  | none => rw [settle_of_viewing_none hviewing.symm, hblank hviewing.symm, Option.map_none]
  | some d => exact settle_append_of_taskId vs hviewing.symm

theorem settle_congr {s t : UiState} (hviewing : s.viewing = t.viewing)
    (hdetail : s.detail = t.detail) : s.settle = t.settle := by
  funext vs
  rw [settle, settle, hviewing, hdetail]

end UiState

theorem App.receive_detail (a : App) (r : Report) :
    (a.receive r).state.detail = a.state.settle r.view?.toList := by
  cases r with
  | detail v =>
      simp only [receive, update, UiState.applyDetail, UiState.settle, Report.view?,
        Option.toList_some, List.foldl_cons, List.foldl_nil]
      split <;> rfl
  | _ => rfl

/-- It is all the same whether the first view was taken or is still on its way. -/
theorem App.settle_receive (a : App) (r : Report) (vs : List DetailView) :
    (a.receive r).state.settle vs = a.state.settle (r.view?.toList ++ vs) := by
  rw [UiState.settle, a.receive_detail, (a.receive_viewing r).1, UiState.settle, UiState.settle,
    List.foldl_append]

/-! ## The backend's steps -/

namespace Backend

theorem closeTask_detail (b : Backend) :
    b.closeTask.1.detail = none ∧ b.closeTask.1.filter = b.filter ∧ views b.closeTask.2 = [] := by
  unfold closeTask
  split
  next h => exact ⟨h, rfl, rfl⟩
  next => exact ⟨rfl, rfl, Effect.views_channel _⟩

theorem handle_command (b : Backend) (c : Command) :
    (b.handle (.command c)).1.detail.map (·.taskId) = c.navigate (b.detail.map (·.taskId)) ∧
      (b.handle (.command c)).1.filter = c.refilter b.filter ∧
      (c.navigates = false ∧ (b.handle (.command c)).1.detail = b.detail ∧
          views (b.handle (.command c)).2 = [] ∨
        views (b.handle (.command c)).2 =
          ((b.handle (.command c)).1.detail.map (·.view)).toList) := by
  obtain ⟨hdetail, hfilter, hviews⟩ := b.closeTask_detail
  cases c with
  | refresh => exact ⟨rfl, rfl, .inl ⟨rfl, rfl, rfl⟩⟩
  | filter f => exact ⟨rfl, rfl, .inl ⟨rfl, rfl, rfl⟩⟩
  | «open» id =>
      refine ⟨rfl, hfilter, .inr ?_⟩
      simp only [handle, obey, openTask, Effect.views_append, hviews]
      rfl
  | close =>
      refine ⟨by simp [handle, obey, hdetail, Command.navigate], hfilter, .inr ?_⟩
      simp only [handle, obey, Effect.views_append, hviews, hdetail]
      rfl
  | quit =>
      refine ⟨by simp [handle, obey, hdetail, Command.navigate], hfilter, .inr ?_⟩
      simp only [handle, obey, hviews, hdetail]
      rfl

/-- A backend that is told something else than a command goes on with the task that is open, and
reports a view that changed. -/
theorem handle_aside (b : Backend) {n : Notice} (hn : ∀ c, n ≠ .command c) :
    (b.handle n).1.detail.map (·.taskId) = b.detail.map (·.taskId) ∧
      (b.handle n).1.filter = b.filter ∧
      ((b.handle n).1.detail = b.detail ∧ views (b.handle n).2 = [] ∨
        views (b.handle n).2 = ((b.handle n).1.detail.map (·.view)).toList) := by
  cases n with
  | command c => exact absurd rfl (hn c)
  | tick =>
      refine ⟨rfl, rfl, .inl ⟨rfl, ?_⟩⟩
      simp only [handle, tick]
      split <;> rfl
  | loaded token result =>
      cases hd : b.detail with
      | none =>
          simp only [handle, loaded, hd]
          exact ⟨trivial, trivial, .inl ⟨trivial, rfl⟩⟩
      | some d =>
          have hid := (d.goesOn_applySnapshot token result).taskId
          simp only [handle, loaded, hd, Effect.views_append, Effect.views_channel]
          refine ⟨congrArg some hid, trivial, ?_⟩
          rcases d.applySnapshot_cases token result with hsame | ⟨-, htaken, -⟩
          · exact .inl (by simp [hsame, views])
          · rw [if_pos htaken]
            exact .inr (BackendRun.views_publish rfl)
  | received answer =>
      cases hd : b.detail with
      | none =>
          simp only [handle, received, hd]
          exact ⟨trivial, trivial, .inl ⟨trivial, rfl⟩⟩
      | some d =>
          have hid := (d.goesOn_receive answer).taskId
          simp only [handle, received, hd, Effect.views_append, Effect.views_channel]
          exact ⟨congrArg some hid, trivial, .inr (BackendRun.views_publish rfl)⟩

end Backend

/-! ## The invariant -/

namespace Keyed

variable {s s' : UiState} {cs : List Command}

theorem view_iff (h : Keyed s s' cs) (hview : s.view = .detail ↔ s.viewing.isSome) :
    s'.view = .detail ↔ s'.viewing.isSome := by
  cases h with
  | looks hsame hviewing _ _ => rw [hsame, hviewing, hview]
  | opens => simp [UiState.openTask]
  | closes => simp [UiState.closeTask]
  | filters => exact hview
  | refreshes => exact hview

theorem blank (h : Keyed s s' cs) (hblank : s.viewing = none → s.detail = none) :
    s'.viewing = none → s'.detail = none := by
  cases h with
  | looks _ hviewing hdetail _ => rwa [hviewing, hdetail]
  | opens => exact fun _ => rfl
  | closes => exact fun _ => rfl
  | filters => exact hblank
  | refreshes => exact hblank

theorem stays (h : Keyed s s' cs) (hcs : ∀ c ∈ cs, c.navigates = false) :
    s'.viewing = s.viewing ∧ s'.detail = s.detail := by
  cases h with
  | looks _ hviewing hdetail _ => exact ⟨hviewing, hdetail⟩
  | opens => simp [Command.navigates] at hcs
  | closes => simp [Command.navigates] at hcs
  | filters => exact ⟨rfl, rfl⟩
  | refreshes => exact ⟨rfl, rfl⟩

end Keyed

/-- A key whose command is not dropped, unless it asks for no more than a refresh. -/
theorem App.press_kept {a app : App} {k : Key} (h : a.press k = some app)
    (hkept : Command.changes app.outbox =
      Command.changes a.outbox ++ Command.ofChange a.state app.state) :
    ∃ cs, Keyed a.state app.state cs ∧ app.outbox = a.outbox ++ cs := by
  obtain ⟨cs, hkeyed, houtbox⟩ := App.press_eq_some h
  obtain ⟨state, outbox⟩ := app
  dsimp only at hkeyed houtbox hkept ⊢
  split at houtbox
  · exact ⟨cs, hkeyed, houtbox⟩
  · -- the outbox is full, so the key had nothing to tell of
    have hnone : Command.changes cs = [] := by
      rw [hkeyed.changes_eq]
      simpa [houtbox] using hkept
    cases hkeyed with
    | looks hview hviewing hdetail hfilter =>
        exact ⟨[], .looks hview hviewing hdetail hfilter, by simpa using houtbox⟩
    | refreshes => exact ⟨[], .looks rfl rfl rfl rfl, by simpa using houtbox⟩
    | _ => simp [Command.changes, Command.isChange] at hnone

namespace Threads

theorem views_report (r : Report) (rest : List Effect) :
    views (.report r :: rest) = r.view?.toList ++ views rest := by
  cases r <;> rfl

theorem views_cons {e : Effect} (h : ∀ r, e ≠ .report r) (rest : List Effect) :
    views (e :: rest) = views rest := by
  cases e with
  | report r => exact absurd rfl (h r)
  | _ => rfl

theorem views_answered {e : Effect} {r : Report} (h : e.isAnsweredBy r = true)
    (rest : List Effect) : views (.report r :: rest) = views (e :: rest) := by
  cases e <;> cases r <;> first | rfl | simp [Effect.isAnsweredBy] at h

def pending (s : Threads) : List DetailView := s.reports.filterMap Report.view? ++ views s.todo

/-- The screen and the backend will agree when the messages on their way have arrived. Commands that
open or close a task make views stale that are already on their way, so while one waits nothing is
said of the view that is shown. -/
structure Matches (s : Threads) : Prop where
  viewing : s.app.outbox.foldl Command.navigate (s.backend.detail.map (·.taskId)) =
    s.app.state.viewing
  filter : s.app.outbox.foldl Command.refilter s.backend.filter = s.app.state.filter
  view : s.app.state.view = .detail ↔ s.app.state.viewing.isSome
  blank : s.app.state.viewing = none → s.app.state.detail = none
  shown : (∀ c ∈ s.app.outbox, c.navigates = false) →
    s.app.state.settle s.pending = s.backend.detail.map (·.view)

theorem matches_start (baseUrl : String) (filter : Filter) (task : Option TaskId) :
    (start baseUrl filter task).Matches := by
  cases task with
  | none => exact ⟨rfl, rfl, by simp [start, App.new, UiState.empty], fun _ => rfl, fun _ => rfl⟩
  | some id =>
      refine ⟨rfl, rfl, by simp [start, App.new, UiState.openTask], by rintro ⟨⟩, fun _ => ?_⟩
      exact UiState.settle_append_of_taskId [] rfl

namespace Matches

variable {s : Threads}

theorem of_pending {s' : Threads} (h : s.Matches) (happ : s'.app = s.app)
    (hbackend : s'.backend = s.backend) (hpending : s'.pending = s.pending) : s'.Matches where
  viewing := by rw [happ, hbackend, h.viewing]
  filter := by rw [happ, hbackend, h.filter]
  view := by rw [happ, h.view]
  blank := by rw [happ]; exact h.blank
  shown := by rw [happ, hbackend, hpending]; exact h.shown

theorem pressed (h : s.Matches) {app : App} {cs : List Command}
    (hkeyed : Keyed s.app.state app.state cs) (houtbox : app.outbox = s.app.outbox ++ cs) :
    (s.pressed app).Matches := by
  obtain ⟨hviewing, hfilter⟩ := hkeyed.foldl_eq
  refine
    { viewing := ?_
      filter := ?_
      view := hkeyed.view_iff h.view
      blank := hkeyed.blank h.blank
      shown := fun hstays => ?_ }
  · rw [Threads.pressed, houtbox, List.foldl_append, h.viewing, hviewing]
  · rw [Threads.pressed, houtbox, List.foldl_append, h.filter, hfilter]
  · rw [Threads.pressed, houtbox, List.forall_mem_append] at hstays
    obtain ⟨hsame, hdetail⟩ := hkeyed.stays hstays.2
    exact (congrFun (UiState.settle_congr hsame hdetail) _).trans (h.shown hstays.1)

theorem taken (h : s.Matches) {r : Report} {rest : List Report} (hreports : s.reports = r :: rest) :
    ({ s with app := s.app.receive r, reports := rest } : Threads).Matches := by
  obtain ⟨hviewing, hview, hfilter⟩ := s.app.receive_viewing r
  have hpending : s.pending = r.view?.toList ++ (rest.filterMap Report.view? ++ views s.todo) := by
    rw [pending, hreports, List.filterMap_cons]
    cases r.view? <;> rfl
  refine
    { viewing := by simpa only [s.app.receive_outbox, hviewing] using h.viewing
      filter := by simpa only [s.app.receive_outbox, hfilter] using h.filter
      view := by simpa only [hview, hviewing] using h.view
      blank := fun hnone => ?_
      shown := fun hstays => ?_ }
  · rw [hviewing] at hnone
    rw [s.app.receive_detail, UiState.settle_of_viewing_none hnone, h.blank hnone]
  · rw [s.app.receive_outbox] at hstays
    exact (s.app.settle_receive r _).trans (hpending ▸ h.shown hstays)

/-- A backend that was told something shows what it did before, or what it has just reported. -/
theorem shown_tell (h : s.Matches) (hdone : s.todo = []) {n : Notice} {outbox : List Command}
    (hviewing : outbox.foldl Command.navigate ((s.backend.handle n).1.detail.map (·.taskId)) =
      s.app.state.viewing)
    (htold : (∀ c ∈ outbox, c.navigates = false) →
      (∀ c ∈ s.app.outbox, c.navigates = false) ∧
          (s.backend.handle n).1.detail = s.backend.detail ∧ views (s.backend.handle n).2 = [] ∨
        views (s.backend.handle n).2 = ((s.backend.handle n).1.detail.map (·.view)).toList)
    (hstays : ∀ c ∈ outbox, c.navigates = false) :
    s.app.state.settle (s.tell n).pending = (s.backend.handle n).1.detail.map (·.view) := by
  rw [pending]
  show s.app.state.settle (s.reports.filterMap Report.view? ++ views (s.backend.handle n).2) = _
  rcases htold hstays with ⟨hbefore, hdetail, hviews⟩ | hviews
  · have hshown := h.shown hbefore
    rw [pending, hdone] at hshown
    rw [hviews, hdetail]
    exact hshown
  · rw [hviews]
    exact UiState.settle_reported _ (by rw [← hviewing, Command.foldl_navigate_eq hstays]) h.blank

theorem obeyed (h : s.Matches) {c : Command} {rest : List Command} (hdone : s.todo = [])
    (houtbox : s.app.outbox = c :: rest) :
    ({ s.tell (.command c) with
      app := { s.app with outbox := rest }
      received := s.received ++ [c]
      stopped := c = .quit } : Threads).Matches := by
  obtain ⟨hdetail, hfilter, hreported⟩ := s.backend.handle_command c
  have hviewing : rest.foldl Command.navigate
      ((s.backend.handle (.command c)).1.detail.map (·.taskId)) = s.app.state.viewing := by
    rw [hdetail, ← h.viewing, houtbox, List.foldl_cons]
  refine
    { viewing := hviewing
      filter := ?_
      view := h.view
      blank := h.blank
      shown := h.shown_tell hdone hviewing fun hstays => ?_ }
  · rw [← h.filter, houtbox, List.foldl_cons, ← hfilter]
    rfl
  · refine hreported.imp_left fun ⟨hc, hsame⟩ => ⟨?_, hsame⟩
    rw [houtbox]
    exact List.forall_mem_cons.2 ⟨hc, hstays⟩

theorem told (h : s.Matches) {n : Notice} (loads : List (MountToken × TaskId))
    (hdone : s.todo = []) (hn : ∀ c, n ≠ .command c) :
    ({ s.tell n with loads := loads } : Threads).Matches := by
  obtain ⟨hdetail, hfilter, hreported⟩ := s.backend.handle_aside hn
  have hviewing : s.app.outbox.foldl Command.navigate
      ((s.backend.handle n).1.detail.map (·.taskId)) = s.app.state.viewing := by
    rw [hdetail, h.viewing]
  exact
    { viewing := hviewing
      filter := Eq.trans (by rw [← hfilter]; rfl) h.filter
      view := h.view
      blank := h.blank
      shown := h.shown_tell hdone hviewing fun hstays => hreported.imp_left (⟨hstays, ·⟩) }

end Matches

theorem phase_of_stepped {s s' : Threads} {m : Move} (h : Stepped s m s')
    (hawake : s'.phase = .awake) : s.phase = .awake := by
  cases h <;> first | assumption | simp at hawake

theorem lost_of_stepped {s s' : Threads} {m : Move} (h : Stepped s m s') (hkept : s'.lost = false) :
    s.lost = false := by
  cases h with
  | presses => exact (Bool.or_eq_false_iff.1 hkept).1
  | _ => exact hkept

/-- Whatever happens next, they go on to match, unless a command is dropped or the user leaves. -/
theorem Matches.stepped {s s' : Threads} {m : Move} (h : s.Matches) (hstep : Stepped s m s')
    (hawake : s'.phase = .awake) (hkept : s'.lost = false) : s'.Matches := by
  cases hstep with
  | idles => exact h
  | presses hphase hkey =>
      have hsent := of_decide_eq_false (Bool.or_eq_false_iff.1 hkept).2
      obtain ⟨cs, hkeyed, houtbox⟩ := App.press_kept hkey (not_not.1 hsent)
      exact h.pressed hkeyed houtbox
  | leaves => simp at hawake
  | takes _ hreports => exact h.taken hreports
  | fails => simp at hawake
  | quits => simp at hawake
  | obeys hdone _ houtbox => exact h.obeyed hdone houtbox
  | tells loads _ _ hdone _ hn => exact h.told loads hdone hn
  | answers htodo hanswer =>
      exact h.of_pending rfl rfl (by rw [pending, pending, htodo, views_answered hanswer])
  | reports htodo =>
      refine h.of_pending rfl rfl ?_
      rw [pending, pending, htodo, views_report, List.filterMap_append, List.append_assoc]
      rfl
  | performs loads htodo hreport =>
      exact h.of_pending rfl rfl (by rw [pending, pending, htodo, views_cons hreport])

theorem matches_run (baseUrl : String) (filter : Filter) (task : Option TaskId) (moves : List Move)
    (hawake : (run baseUrl filter task moves).phase = .awake)
    (hkept : (run baseUrl filter task moves).lost = false) :
    (run baseUrl filter task moves).Matches := by
  induction moves using List.reverseRecOn with
  | nil => exact matches_start baseUrl filter task
  | append_singleton moves m ih =>
      rw [run_concat] at hawake hkept ⊢
      have hstep := (run baseUrl filter task moves).stepped_step m
      exact (ih (phase_of_stepped hstep hawake) (lost_of_stepped hstep hkept)).stepped hstep
        hawake hkept

/-! ## At rest -/

structure Agrees (s : Threads) : Prop where
  viewing : s.app.state.viewing = s.backend.detail.map (·.taskId)
  detail : s.app.state.detail = s.backend.detail.map (·.view)
  view : s.app.state.view = .detail ↔ s.backend.detail.isSome
  filter : s.app.state.filter = s.backend.filter

/-- Once nothing is on its way, the screen and the backend agree, in whatever order keys, commands,
loads, signals and reports came before. The user has not left, and no command was dropped that a
change of the screen stands for. -/
theorem agrees_of_atRest (baseUrl : String) (filter : Filter) (task : Option TaskId)
    (moves : List Move) (hawake : (run baseUrl filter task moves).phase = .awake)
    (hkept : (run baseUrl filter task moves).lost = false)
    (hrest : (run baseUrl filter task moves).AtRest) :
    (run baseUrl filter task moves).Agrees := by
  have h := matches_run baseUrl filter task moves hawake hkept
  generalize run baseUrl filter task moves = s at h hrest ⊢
  have hviewing : s.app.state.viewing = s.backend.detail.map (·.taskId) := by
    simpa [hrest.commands] using h.viewing.symm
  exact
    { viewing := hviewing
      detail := by
        have hshown := h.shown (by simp [hrest.commands])
        rwa [pending, hrest.reports, hrest.done] at hshown
      view := by rw [h.view, hviewing, Option.isSome_map]
      filter := by simpa [hrest.commands] using h.filter.symm }

open DetailSession (runningSnapshot) in
/-- The user leaves the task `t1` before the first report of it comes, and opens it again from a
list by another filter. -/
def reopening : List Move :=
  [.press .escape, .answer (.health true), .perform, .perform, .perform, .take, .take, .obey,
    .perform, .tick, .answer (.tasks [(runningSnapshot ⟨"t1"⟩).task.summary]), .perform, .take,
    .press (.char 'f'), .press .enter, .obey,
    .answer (.tasks [(runningSnapshot ⟨"t1"⟩).task.summary]), .perform, .obey, .perform, .perform,
    .loadEnds 0 (.ok (runningSnapshot ⟨"t1"⟩)), .loadEnds 0 (.ok (runningSnapshot ⟨"t1"⟩)),
    .perform, .perform, .take, .take, .take]

/-- The first report of the task comes while none is shown, and the first load is dropped. -/
theorem reopened_agrees :
    (run "http://gw" none (some ⟨"t1"⟩) reopening).phase = .awake ∧
      (run "http://gw" none (some ⟨"t1"⟩) reopening).lost = false ∧
      (run "http://gw" none (some ⟨"t1"⟩) reopening).AtRest ∧
      (run "http://gw" none (some ⟨"t1"⟩) reopening).Agrees ∧
      (run "http://gw" none (some ⟨"t1"⟩) reopening).backend.detail.map (·.view.loading) =
        some false := by
  have hrest : (run "http://gw" none (some ⟨"t1"⟩) reopening).AtRest := ⟨rfl, rfl, rfl⟩
  exact ⟨rfl, rfl, hrest, agrees_of_atRest _ _ _ reopening rfl rfl hrest, rfl⟩

end Threads

end TaskMonitor
