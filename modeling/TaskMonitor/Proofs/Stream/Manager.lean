import TaskMonitor.Proofs.Stream.Requests

/-! # What the operations of a stream manager do -/

namespace TaskMonitor.StreamManager

variable {α : Type}

def heldUrl (m : StreamManager α) : Option String := m.subscribed.map m.streamUrl

@[simp] theorem heldUrl_setStatus (m : StreamManager α) (s : StreamStatus) :
    (m.setStatus s).heldUrl = m.heldUrl := rfl

@[simp] theorem heldUrl_with_slot (m : StreamManager α) (slot : HandlerSlot α) :
    { m with slot := slot }.heldUrl = m.heldUrl := rfl

@[simp] theorem isSome_heldUrl (m : StreamManager α) : m.heldUrl.isSome = m.isLive := by
  simp [heldUrl, isLive]

@[simp] theorem new_subscribed (baseUrl : String) :
    (new baseUrl : StreamManager α).subscribed = none := rfl

/-! ## Giving up the subscription -/

@[simp] theorem setStatus_subscribed (m : StreamManager α) (s : StreamStatus) :
    (m.setStatus s).subscribed = m.subscribed := rfl

@[simp] theorem setStatus_status (m : StreamManager α) (s : StreamStatus) :
    (m.setStatus s).status = s := rfl

@[simp] theorem setStatus_key (m : StreamManager α) (s : StreamStatus) :
    (m.setStatus s).key = m.key := rfl

@[simp] theorem setStatus_baseUrl (m : StreamManager α) (s : StreamStatus) :
    (m.setStatus s).baseUrl = m.baseUrl := rfl

@[simp] theorem setStatus_slot (m : StreamManager α) (s : StreamStatus) :
    (m.setStatus s).slot = m.slot := rfl

theorem teardown_fst (m : StreamManager α) : m.teardown.1 = { m with subscribed := none } := by
  obtain ⟨url, key, subscribed, status, changes, slot⟩ := m
  cases subscribed <;> rfl

theorem teardown_snd (m : StreamManager α) :
    m.teardown.2 = if m.isLive then [.close] else [] := by
  unfold teardown
  split <;> rfl

@[simp] theorem teardown_snd_with_key (m : StreamManager α)
    (key : Option (Option TaskId × Bool)) : { m with key := key }.teardown.2 = m.teardown.2 := by
  rw [teardown_snd, teardown_snd]
  rfl

@[simp] theorem teardown_snd_with_slot (m : StreamManager α) (slot : HandlerSlot α) :
    { m with slot := slot }.teardown.2 = m.teardown.2 := by
  rw [teardown_snd, teardown_snd]
  rfl

theorem close_fst (m : StreamManager α) :
    m.close.1 = { m with subscribed := none }.setStatus .closed := by
  simp only [close, teardown_fst]

@[simp] theorem close_snd (m : StreamManager α) : m.close.2 = m.teardown.2 := rfl

/-! ## What is wanted -/

theorem update_of_key_eq {m : StreamManager α} {id : Option TaskId} {enabled : Bool}
    (h : m.key = some (id, enabled)) : m.update id enabled = (m, []) := by
  simp [update, h]

theorem update_on {m : StreamManager α} {id : TaskId} (h : m.key ≠ some (some id, true)) :
    m.update (some id) true =
      ({ m with key := some (some id, true), subscribed := some id }.setStatus .connecting,
        m.teardown.2 ++ [.open (m.streamUrl id)]) := by
  simp only [update, h, if_false, teardown_fst, teardown_snd_with_key]
  rfl

/-- A task that is not to be followed: none, or one whose stream is switched off. -/
def IsOff (id : Option TaskId) (enabled : Bool) : Prop := id = none ∨ enabled = false

theorem update_off {m : StreamManager α} {id : Option TaskId} {enabled : Bool}
    (hoff : IsOff id enabled) (h : m.key ≠ some (id, enabled)) :
    m.update id enabled =
      (let idle : StreamManager α := { m with key := some (id, enabled), subscribed := none }
        if m.key.any (·.1 = id) ∧ m.status = .closed then idle else idle.setStatus .disconnected,
        m.teardown.2) := by
  simp only [update, h, if_false, teardown_fst, teardown_snd_with_key]
  rcases hoff with rfl | rfl
  · cases enabled <;> (dsimp only; split <;> rfl)
  · cases id <;> (dsimp only; split <;> rfl)

theorem isOff_or (id : Option TaskId) (enabled : Bool) :
    IsOff id enabled ∨ ∃ task, id = some task ∧ enabled = true := by
  cases id <;> cases enabled <;> simp [IsOff]

/-! ## What arrives -/

/-- How the answer of a subscription that is held changes the manager, and what is asked of the
channel for it. -/
inductive Received (m : StreamManager α) :
    Option Signal → StreamManager α → List ChannelRequest → Prop where
  | opened : Received m (some .opened) (m.setStatus .connected) []
  | interrupted : Received m (some .interrupted) (m.setStatus .disconnected) []
  | heard (channel data : String) (slot : HandlerSlot α) :
      Received m (some (.message channel data)) { m with slot := slot } []
  | closed (answer : Option Signal) (slot : HandlerSlot α) :
      Received m answer { m with slot := slot }.close.1 m.teardown.2

theorem onMessage_received (m : StreamManager α) (channel data : String) :
    Received m (some (.message channel data)) (m.onMessage channel data).manager
      (m.onMessage channel data).requests := by
  unfold onMessage
  split
  · exact .heard channel data m.slot
  · dsimp only
    split
    · simpa using Received.closed (some (.message channel data)) m.slot.invoke.1
    · exact .heard channel data _

theorem dispatch_of_not_live {m : StreamManager α} (h : m.isLive = false) (signal : Signal) :
    m.dispatch signal = ⟨m, [], none⟩ := by
  simp [dispatch, h]

theorem receive_received {m : StreamManager α} (h : m.isLive) (answer : Option Signal) :
    Received m answer (m.receive answer).manager (m.receive answer).requests := by
  cases answer with
  | none => exact .closed none m.slot
  | some signal =>
      cases signal with
      | opened => simpa [receive, dispatch, h] using Received.opened
      | interrupted => simpa [receive, dispatch, h] using Received.interrupted
      | refused => simpa [receive, dispatch, h] using Received.closed (some .refused) m.slot
      | message channel data =>
          simpa [receive, dispatch, h] using onMessage_received m channel data

/-! ## Orderly requests -/

theorem orderly_teardown {m : StreamManager α} {requests : List ChannelRequest}
    (h : Orderly requests m.heldUrl) : Orderly (requests ++ m.teardown.2) none := by
  rw [teardown_snd]
  cases hs : m.subscribed with
  | none => simpa [isLive, heldUrl, hs] using h
  | some id =>
      simp only [isLive, hs, Option.isSome_some, if_true]
      exact .closed (by simpa [heldUrl, hs] using h)

theorem orderly_update {m : StreamManager α} {requests : List ChannelRequest}
    (id : Option TaskId) (enabled : Bool) (h : Orderly requests m.heldUrl) :
    Orderly (requests ++ (m.update id enabled).2) (m.update id enabled).1.heldUrl := by
  by_cases hkey : m.key = some (id, enabled)
  · simpa [update_of_key_eq hkey] using h
  · rcases isOff_or id enabled with hoff | ⟨task, rfl, rfl⟩
    · rw [update_off hoff hkey]
      dsimp only
      split <;> simpa [heldUrl] using orderly_teardown h
    · rw [update_on hkey]
      simpa [heldUrl, streamUrl] using (orderly_teardown h).opened

theorem Received.orderly {m m' : StreamManager α} {answer : Option Signal}
    {asked requests : List ChannelRequest} (hr : Received m answer m' asked)
    (h : Orderly requests m.heldUrl) : Orderly (requests ++ asked) m'.heldUrl := by
  cases hr with
  | opened => simpa using h
  | interrupted => simpa using h
  | heard => simpa using h
  | closed answer slot => simpa [close_fst, heldUrl] using orderly_teardown h

end TaskMonitor.StreamManager
