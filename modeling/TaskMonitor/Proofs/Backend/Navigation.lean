import Mathlib.Data.List.Induction
import TaskMonitor.Backend.Basic
import TaskMonitor.Proofs.Detail.Channel

/-! # One detail view at a time

Whatever the backend is told, it holds at most one subscription, for the task that is open, and
reports the view of that task only. -/

namespace TaskMonitor

/-! ## Effects -/

namespace Effect

def requests (effects : List Effect) : List ChannelRequest :=
  effects.filterMap fun e => match e with
    | .channel request => some request
    | _ => none

def loads (effects : List Effect) : List (MountToken × TaskId) :=
  effects.filterMap fun e => match e with
    | .load token id => some (token, id)
    | _ => none

def views (effects : List Effect) : List DetailView :=
  effects.filterMap fun e => match e with
    | .report (.detail v) => some v
    | _ => none

@[simp] theorem requests_append (xs ys : List Effect) :
    requests (xs ++ ys) = requests xs ++ requests ys :=
  List.filterMap_append

@[simp] theorem loads_append (xs ys : List Effect) : loads (xs ++ ys) = loads xs ++ loads ys :=
  List.filterMap_append

@[simp] theorem views_append (xs ys : List Effect) : views (xs ++ ys) = views xs ++ views ys :=
  List.filterMap_append

@[simp] theorem requests_channel (requests : List ChannelRequest) :
    Effect.requests (requests.map .channel) = requests := by
  simp [Effect.requests, List.filterMap_map]

@[simp] theorem loads_channel (requests : List ChannelRequest) :
    loads (requests.map .channel) = [] := by
  simp [loads, List.filterMap_map]

@[simp] theorem views_channel (requests : List ChannelRequest) :
    views (requests.map .channel) = [] := by
  simp [views, List.filterMap_map]

end Effect

open Effect (requests loads views)

/-! ## Runs -/

structure BackendRun where
  backend : Backend
  effects : List Effect

namespace BackendRun

def tell (r : BackendRun) (n : Notice) : BackendRun :=
  ⟨(r.backend.handle n).1, r.effects ++ (r.backend.handle n).2⟩

def run (baseUrl : String) (filter : Filter) (task : Option TaskId) (notices : List Notice) :
    BackendRun :=
  let (backend, effects) := (Backend.new baseUrl filter).start task
  notices.foldl tell ⟨backend, effects⟩

/-- What a backend has been told. The task that is open at the start counts as a command. -/
def told (task : Option TaskId) (notices : List Notice) : List Notice :=
  (task.map fun id => .command (.open id)).toList ++ notices

/-- The task of the last command to open one, unless it was closed since. -/
def openTask? (notices : List Notice) : Option TaskId :=
  notices.foldl (fun last n => match n with
    | .command (.open id) => some id
    | .command .close => none
    | .command .quit => none
    | _ => last) none

def opens (notices : List Notice) : List TaskId :=
  notices.filterMap fun n => match n with
    | .command (.open id) => some id
    | _ => none

theorem run_eq (baseUrl : String) (filter : Filter) (task : Option TaskId)
    (notices : List Notice) :
    run baseUrl filter task notices =
      (told task notices).foldl tell ⟨.new baseUrl filter, [.checkHealth]⟩ := by
  cases task with
  | none => rfl
  | some id => rfl

/-- Where the subscription leads that is held, if one is. -/
def held (r : BackendRun) : Option String := r.backend.detail.bind (·.heldUrl)

/-! ## The invariant -/

/-- A run is sound for what the backend was told: the view that is open, its stream and its load
are those of the last command to open a task. -/
structure Sound (baseUrl : String) (notices : List Notice) (r : BackendRun) : Prop where
  address : r.backend.baseUrl = baseUrl
  mounted : r.backend.detail.map (·.taskId) = openTask? notices
  tied : ∀ d, r.backend.detail = some d →
    d.IsTied ∧ d.disposed = false ∧ d.baseUrl = baseUrl
  orderly : Orderly (requests r.effects) r.held
  mounts : r.backend.mounts = (opens notices).length
  loads : loads r.effects = (opens notices).mapIdx fun i id => (⟨i⟩, id)
  latest : ∀ d, r.backend.detail = some d →
    (Effect.loads r.effects).getLast? = some (d.token, d.taskId)

theorem sound_start (baseUrl : String) (filter : Filter) :
    Sound baseUrl [] ⟨.new baseUrl filter, [.checkHealth]⟩ where
  address := rfl
  mounted := rfl
  tied := by simp [Backend.new]
  orderly := .nothing
  mounts := rfl
  loads := rfl
  latest := by simp [Backend.new]

namespace Sound

variable {baseUrl : String} {notices : List Notice} {r : BackendRun}

theorem aside (h : Sound baseUrl notices r) {n : Notice} {filter : Filter} (effects : List Effect)
    (hrequests : requests effects = []) (hloads : Effect.loads effects = [])
    (hopen : openTask? (notices ++ [n]) = openTask? notices)
    (hopens : opens (notices ++ [n]) = opens notices) :
    Sound baseUrl (notices ++ [n])
      ⟨{ r.backend with filter := filter }, r.effects ++ effects⟩ where
  address := h.address
  mounted := by rw [hopen]; exact h.mounted
  tied := h.tied
  orderly := by
    rw [Effect.requests_append, hrequests, List.append_nil]
    exact h.orderly
  mounts := by rw [hopens]; exact h.mounts
  loads := by rw [hopens]; simpa [hloads] using h.loads
  latest := by simpa [hloads] using h.latest

theorem goesOn (h : Sound baseUrl notices r) {n : Notice} {d d' : DetailBinder}
    {asked : List ChannelRequest} (effects : List Effect) (hd : r.backend.detail = some d)
    (hgo : d.GoesOn d' asked) (hrequests : requests effects = [])
    (hloads : Effect.loads effects = [])
    (hopen : openTask? (notices ++ [n]) = openTask? notices)
    (hopens : opens (notices ++ [n]) = opens notices) :
    Sound baseUrl (notices ++ [n])
      ⟨{ r.backend with detail := some d' }, r.effects ++ (asked.map .channel ++ effects)⟩ := by
  obtain ⟨htied, hdisposed, hbase⟩ := h.tied d hd
  have hmounted := h.mounted
  have horderly := h.orderly
  simp only [held, hd, Option.map_some, Option.bind_some] at hmounted horderly
  refine ⟨h.address, ?_, ?_, ?_, by rw [hopens]; exact h.mounts, ?_, ?_⟩
  · simpa [hopen, hgo.taskId] using hmounted
  · rintro _ ⟨⟩
    exact ⟨hgo.tied htied, hgo.disposed.trans hdisposed, hgo.baseUrl.trans hbase⟩
  · simpa [hrequests, held] using hgo.orderly horderly
  · rw [hopens]
    simpa [hloads] using h.loads
  · rintro _ ⟨⟩
    simpa [hloads, hgo.token, hgo.taskId] using h.latest d hd

theorem closeTask_eq (h : Sound baseUrl notices r) :
    ∃ closing : List ChannelRequest,
      r.backend.closeTask = ({ r.backend with detail := none }, closing.map .channel) ∧
        Orderly (requests r.effects ++ closing) none := by
  obtain ⟨⟨url, filter, detail, mounts⟩, effects⟩ := r
  have horderly := h.orderly
  cases detail with
  | none => exact ⟨[], rfl, by simpa [held] using horderly⟩
  | some d =>
      obtain ⟨htied, hdisposed, -⟩ := h.tied d rfl
      exact ⟨d.dispose.2, rfl, (DetailBinder.orderly_dispose htied hdisposed horderly).1⟩

theorem closed (h : Sound baseUrl notices r) {n : Notice} {closing : List ChannelRequest}
    (effects : List Effect) (horderly : Orderly (requests r.effects ++ closing) none)
    (hrequests : requests effects = []) (hloads : Effect.loads effects = [])
    (hopen : openTask? (notices ++ [n]) = none)
    (hopens : opens (notices ++ [n]) = opens notices) :
    Sound baseUrl (notices ++ [n])
      ⟨{ r.backend with detail := none }, r.effects ++ (closing.map .channel ++ effects)⟩ where
  address := h.address
  mounted := hopen.symm
  tied := by simp
  orderly := by simpa [hrequests, held] using horderly
  mounts := by rw [hopens]; exact h.mounts
  loads := by rw [hopens]; simpa [hloads] using h.loads
  latest := by simp

/-- A view is opened after the one before it was closed. Its load is told by its token from all
loads before it. -/
theorem openTask_eq (h : Sound baseUrl notices r) (id : TaskId) :
    ∃ closing : List ChannelRequest,
      r.backend.openTask id =
          ({ r.backend with
              detail := some (.mount id ⟨r.backend.mounts⟩ baseUrl)
              mounts := r.backend.mounts + 1 },
            closing.map .channel ++ [.load ⟨r.backend.mounts⟩ id,
              .report (.detail (DetailBinder.mount id ⟨r.backend.mounts⟩ baseUrl).view)]) ∧
        Orderly (requests r.effects ++ closing) none := by
  obtain ⟨closing, hclose, horderly⟩ := h.closeTask_eq
  refine ⟨closing, ?_, horderly⟩
  simp only [Backend.openTask, hclose, h.address]
  rfl

theorem opened (h : Sound baseUrl notices r) (id : TaskId) :
    Sound baseUrl (notices ++ [.command (.open id)]) (r.tell (.command (.open id))) := by
  obtain ⟨closing, hopen, horderly⟩ := h.openTask_eq id
  have hopens : opens (notices ++ [.command (.open id)]) = opens notices ++ [id] := by
    simp [opens]
  have hloads : Effect.loads (r.tell (.command (.open id))).effects =
      Effect.loads r.effects ++ [(⟨r.backend.mounts⟩, id)] := by
    simp only [tell, Backend.handle, Backend.obey, hopen, Effect.loads_append,
      Effect.loads_channel]
    rfl
  refine ⟨?_, ?_, ?_, ?_, ?_, ?_, ?_⟩
  · simp only [tell, Backend.handle, Backend.obey, hopen]
    exact h.address
  · simp only [tell, Backend.handle, Backend.obey, hopen]
    simp [openTask?, DetailBinder.mount]
  · simp only [tell, Backend.handle, Backend.obey, hopen]
    rintro _ ⟨⟩
    exact ⟨DetailBinder.isTied_mount _ _ _, rfl, rfl⟩
  · have hasked : requests (closing.map .channel ++ [.load ⟨r.backend.mounts⟩ id,
        .report (.detail (DetailBinder.mount id ⟨r.backend.mounts⟩ baseUrl).view)]) = closing := by
      rw [Effect.requests_append, Effect.requests_channel]
      exact List.append_nil closing
    simp only [tell, Backend.handle, Backend.obey, hopen, Effect.requests_append r.effects, hasked]
    exact horderly
  · rw [hopens]
    simp [tell, Backend.handle, Backend.obey, hopen, h.mounts]
  · rw [hloads, hopens, h.loads, h.mounts]
    simp [List.mapIdx_append]
  · rw [hloads]
    simp only [tell, Backend.handle, Backend.obey, hopen]
    rintro _ ⟨⟩
    simp [DetailBinder.mount]

theorem tell (h : Sound baseUrl notices r) (n : Notice) :
    Sound baseUrl (notices ++ [n]) (r.tell n) := by
  cases n with
  | command c =>
      cases c with
      | refresh => exact h.aside _ rfl rfl (by simp [openTask?]) (by simp [opens])
      | filter f => exact h.aside _ rfl rfl (by simp [openTask?]) (by simp [opens])
      | «open» id => exact h.opened id
      | close =>
          obtain ⟨closing, hclose, horderly⟩ := h.closeTask_eq
          simp only [BackendRun.tell, Backend.handle, Backend.obey, hclose]
          exact h.closed _ horderly rfl rfl (by simp [openTask?]) (by simp [opens])
      | quit =>
          obtain ⟨closing, hclose, horderly⟩ := h.closeTask_eq
          simp only [BackendRun.tell, Backend.handle, Backend.obey, hclose]
          simpa using h.closed [] horderly rfl rfl (by simp [openTask?]) (by simp [opens])
  | tick =>
      have hopen : openTask? (notices ++ [.tick]) = openTask? notices := by simp [openTask?]
      have hopens : opens (notices ++ [.tick]) = opens notices := by simp [opens]
      simp only [BackendRun.tell, Backend.handle, Backend.tick]
      split
      · exact h.aside _ rfl rfl hopen hopens
      · exact h.aside _ rfl rfl hopen hopens
  | loaded token result =>
      have hopen : openTask? (notices ++ [.loaded token result]) = openTask? notices := by
        simp [openTask?]
      have hopens : opens (notices ++ [.loaded token result]) = opens notices := by simp [opens]
      cases hd : r.backend.detail with
      | none =>
          simp only [BackendRun.tell, Backend.handle, Backend.loaded, hd]
          exact h.aside [] rfl rfl hopen hopens
      | some d =>
          simp only [BackendRun.tell, Backend.handle, Backend.loaded, hd]
          have hgo := d.goesOn_applySnapshot token result
          split
          · exact h.goesOn _ hd hgo rfl rfl hopen hopens
          · exact h.goesOn [] hd hgo rfl rfl hopen hopens
  | received answer =>
      have hopen : openTask? (notices ++ [.received answer]) = openTask? notices := by
        simp [openTask?]
      have hopens : opens (notices ++ [.received answer]) = opens notices := by simp [opens]
      cases hd : r.backend.detail with
      | none =>
          simp only [BackendRun.tell, Backend.handle, Backend.received, hd]
          exact h.aside [] rfl rfl hopen hopens
      | some d =>
          simp only [BackendRun.tell, Backend.handle, Backend.received, hd]
          exact h.goesOn _ hd (d.goesOn_receive answer) rfl rfl hopen hopens

end Sound

theorem sound_foldl (baseUrl : String) (filter : Filter) (notices : List Notice) :
    Sound baseUrl notices (notices.foldl tell ⟨.new baseUrl filter, [.checkHealth]⟩) := by
  induction notices using List.reverseRecOn with
  | nil => exact sound_start baseUrl filter
  | append_singleton notices n ih =>
      rw [List.foldl_append]
      exact ih.tell n

theorem sound_run (baseUrl : String) (filter : Filter) (task : Option TaskId)
    (notices : List Notice) :
    Sound baseUrl (told task notices) (run baseUrl filter task notices) := by
  rw [run_eq]
  exact sound_foldl baseUrl filter (told task notices)

/-! ## One step -/

theorem views_publish {b : Backend} {d : DetailBinder} (h : b.detail = some d) :
    views b.publish = [d.view] := by
  simp [Backend.publish, h, views]

theorem views_handle (b : Backend) (n : Notice) :
    views (b.handle n).2 = [] ∨
      ∃ d, (b.handle n).1.detail = some d ∧ views (b.handle n).2 = [d.view] := by
  have hclosing : views b.closeTask.2 = [] := by
    unfold Backend.closeTask
    split
    · rfl
    · exact Effect.views_channel _
  cases n with
  | command c =>
      cases c with
      | refresh => exact .inl rfl
      | filter f => exact .inl rfl
      | close =>
          left
          simp only [Backend.handle, Backend.obey, Effect.views_append, hclosing]
          rfl
      | quit => exact .inl hclosing
      | «open» id =>
          refine .inr ⟨_, rfl, ?_⟩
          simp only [Backend.handle, Backend.obey, Backend.openTask, Effect.views_append, hclosing]
          rfl
  | tick =>
      simp only [Backend.handle, Backend.tick]
      split <;> exact .inl rfl
  | loaded token result =>
      cases hd : b.detail with
      | none => exact .inl (by simp only [Backend.handle, Backend.loaded, hd]; rfl)
      | some d =>
          simp only [Backend.handle, Backend.loaded, hd, Effect.views_append, Effect.views_channel]
          split
          · exact .inr ⟨_, rfl, views_publish rfl⟩
          · exact .inl rfl
  | received answer =>
      cases hd : b.detail with
      | none => exact .inl (by simp only [Backend.handle, Backend.received, hd]; rfl)
      | some d =>
          simp only [Backend.handle, Backend.received, hd, Effect.views_append,
            Effect.views_channel]
          exact .inr ⟨_, rfl, views_publish rfl⟩

theorem loaded_of_token_ne {b : Backend} {token : MountToken}
    (h : ∀ d, b.detail = some d → d.token ≠ token) (result : Except LoadError TaskSnapshot) :
    b.loaded token result = (b, []) := by
  obtain ⟨url, filter, detail, mounts⟩ := b
  cases detail with
  | none => rfl
  | some d =>
      have hstale : d.applySnapshot token result = (d, [], false) := by
        simp [DetailBinder.applySnapshot, Ne.symm (h d rfl)]
      simp [Backend.loaded, hstale]

/-! ## One view at a time -/

/-- What holds of a backend between two steps, and of whatever it is told next. -/
structure OneView (baseUrl : String) (notices : List Notice) (r : BackendRun) : Prop where
  orderly : Orderly (requests r.effects) r.held
  balance : ChannelRequest.opened (requests r.effects) =
    ChannelRequest.closed (requests r.effects) + if r.held.isSome then 1 else 0
  held : ∀ url, r.held = some url → ∃ id, openTask? notices = some id ∧
    url = withoutSlashes baseUrl ++ "/api/stream/task/" ++ id.text
  mounted : r.backend.detail.map (·.taskId) = openTask? notices
  /-- No two loads have the same token. -/
  loads : loads r.effects = (opens notices).mapIdx fun i id => (⟨i⟩, id)
  opening : ∀ id, ∃ closing token v,
    (r.backend.handle (.command (.open id))).2 =
      closing.map .channel ++ [.load token id, .report (.detail v)] ∧
    Orderly (requests r.effects ++ closing) none ∧ v.taskId = id ∧ v.loading = true
  loaded : ∀ token result, r.backend.handle (.loaded token result) ≠ (r.backend, []) →
    ∃ d, r.backend.detail = some d ∧ d.token = token ∧
      (Effect.loads r.effects).getLast? = some (token, d.taskId)
  reports : ∀ n, ∀ v ∈ views (r.backend.handle n).2, ∃ d,
    (r.backend.handle n).1.detail = some d ∧ v = d.view ∧
    openTask? (notices ++ [n]) = some v.taskId
  quit : (r.backend.handle (.command .quit)).1.detail = none ∧
    Orderly (requests r.effects ++ requests (r.backend.handle (.command .quit)).2) none

/-- Whatever a backend is told, in any order, it shows one view at a time. The results of loads may
come late, twice, or without having been asked for. -/
theorem oneView_run (baseUrl : String) (filter : Filter) (task : Option TaskId)
    (notices : List Notice) :
    OneView baseUrl (told task notices) (run baseUrl filter task notices) := by
  have h := sound_run baseUrl filter task notices
  refine ⟨h.orderly, h.orderly.opened_eq, ?_, h.mounted, h.loads, ?_, ?_, ?_, ?_⟩
  · intro url hurl
    obtain ⟨d, hd, hheld⟩ := Option.bind_eq_some_iff.mp hurl
    obtain ⟨m, hm, hmanager⟩ := Option.bind_eq_some_iff.mp hheld
    obtain ⟨htied, -, hbase⟩ := h.tied d hd
    refine ⟨d.taskId, ?_, ?_⟩
    · rw [← h.mounted, hd]
      rfl
    · rw [← hbase]
      exact (htied m hm).heldUrl_eq hmanager
  · intro id
    obtain ⟨closing, hopen, horderly⟩ := h.openTask_eq id
    exact ⟨closing, _, _, congrArg (·.2) hopen, horderly, rfl, rfl⟩
  · intro token result hchanges
    by_contra hnone
    apply hchanges
    refine loaded_of_token_ne ?_ result
    rintro d hd rfl
    exact hnone ⟨d, hd, rfl, h.latest d hd⟩
  · intro n v hv
    rcases views_handle (run baseUrl filter task notices).backend n with hnone | ⟨d, hd, hview⟩
    · simp [hnone] at hv
    · obtain rfl : v = d.view := by simpa [hview] using hv
      refine ⟨d, hd, rfl, ?_⟩
      have hmounted := (h.tell n).mounted
      simp only [BackendRun.tell, hd] at hmounted
      exact hmounted.symm
  · obtain ⟨closing, hclose, horderly⟩ := h.closeTask_eq
    simp only [Backend.handle, Backend.obey, hclose, Effect.requests_channel]
    exact ⟨trivial, horderly⟩

end BackendRun

end TaskMonitor
