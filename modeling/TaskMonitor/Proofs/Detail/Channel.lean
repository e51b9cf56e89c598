import TaskMonitor.Detail.Binder
import TaskMonitor.Proofs.Stream.Manager

/-! # What a detail view asks of the push channel

A view asks for its own task only, and what it asks for is orderly. -/

namespace TaskMonitor

/-! ## The stream of a task -/

namespace StreamManager

/-- A stream that is switched off gives its subscription up, if it was wanted until then. -/
theorem update_false {α : Type} {m : StreamManager α} {id : TaskId}
    (h : m.isLive = true → m.key ≠ some (some id, false)) :
    (m.update (some id) false).1.isLive = false ∧
      (m.update (some id) false).2 = m.teardown.2 := by
  by_cases hkey : m.key = some (some id, false)
  · have hidle : m.isLive = false := by simpa [hkey] using h
    simp [update_of_key_eq hkey, teardown_snd, hidle]
  · rw [update_off (.inr rfl) hkey]
    dsimp only
    split <;> exact ⟨rfl, rfl⟩

/-- The manager holds no subscription but one for the task, and that one is wanted. -/
structure IsFor {α : Type} (m : StreamManager α) (id : TaskId) (baseUrl : String) : Prop where
  address : m.baseUrl = withoutSlashes baseUrl
  wanted : ∀ other, m.subscribed = some other → other = id ∧ m.key = some (some id, true)

namespace IsFor

variable {α : Type} {m m' : StreamManager α} {id : TaskId} {baseUrl : String}

theorem new (id : TaskId) (baseUrl : String) : (StreamManager.new baseUrl : StreamManager α).IsFor
    id baseUrl :=
  ⟨rfl, by simp⟩

theorem with_slot (h : m.IsFor id baseUrl) (slot : HandlerSlot α) :
    { m with slot := slot }.IsFor id baseUrl :=
  ⟨h.address, h.wanted⟩

theorem setStatus (h : m.IsFor id baseUrl) (status : StreamStatus) :
    (m.setStatus status).IsFor id baseUrl :=
  ⟨h.address, h.wanted⟩

theorem close (h : m.IsFor id baseUrl) : m.close.1.IsFor id baseUrl := by
  rw [close_fst]
  exact ⟨h.address, by simp⟩

theorem update (h : m.IsFor id baseUrl) (enabled : Bool) :
    (m.update (some id) enabled).1.IsFor id baseUrl := by
  by_cases hkey : m.key = some (some id, enabled)
  · rwa [update_of_key_eq hkey]
  · cases enabled with
    | true =>
        rw [update_on hkey]
        refine ⟨h.address, ?_⟩
        intro other hother
        exact ⟨by simpa [eq_comm] using hother, rfl⟩
    | false =>
        rw [update_off (.inr rfl) hkey]
        dsimp only
        split <;> exact ⟨h.address, by simp⟩

theorem received (h : m.IsFor id baseUrl) {answer : Option Signal} {asked : List ChannelRequest}
    (hr : Received m answer m' asked) : m'.IsFor id baseUrl := by
  cases hr with
  | opened => exact h.setStatus .connected
  | interrupted => exact h.setStatus .disconnected
  | heard channel data slot => exact h.with_slot slot
  | closed answer slot => exact (h.with_slot slot).close

theorem heldUrl_update_false (h : m.IsFor id baseUrl) :
    (m.update (some id) false).1.heldUrl = none := by
  have hwanted : m.isLive = true → m.key ≠ some (some id, false) := by
    intro hlive
    obtain ⟨other, hs⟩ := Option.isSome_iff_exists.mp hlive
    simp [(h.wanted other hs).2]
  obtain ⟨hidle, -⟩ := update_false hwanted
  rwa [← isSome_heldUrl, Option.isSome_eq_false_iff, Option.isNone_iff_eq_none] at hidle

theorem heldUrl_eq (h : m.IsFor id baseUrl) {url : String} (hurl : m.heldUrl = some url) :
    url = withoutSlashes baseUrl ++ "/api/stream/task/" ++ id.text := by
  obtain ⟨other, hs, rfl⟩ := Option.map_eq_some_iff.mp hurl
  obtain ⟨rfl, -⟩ := h.wanted other hs
  simp [streamUrl, h.address]

end IsFor

end StreamManager

/-! ## The view -/

namespace DetailBinder

def heldUrl (b : DetailBinder) : Option String := b.stream.bind StreamManager.heldUrl

@[simp] theorem isSome_heldUrl (b : DetailBinder) : b.heldUrl.isSome = b.isStreaming := by
  cases hstream : b.stream <;> simp [heldUrl, isStreaming, hstream]

/-- The stream of the view, if it has one, is for the view's task. -/
def IsTied (b : DetailBinder) : Prop := ∀ m, b.stream = some m → m.IsFor b.taskId b.baseUrl

/-- The view goes on, after it asked for the requests. -/
structure GoesOn (b b' : DetailBinder) (requests : List ChannelRequest) : Prop where
  taskId : b'.taskId = b.taskId
  token : b'.token = b.token
  baseUrl : b'.baseUrl = b.baseUrl
  disposed : b'.disposed = b.disposed
  tied : b.IsTied → b'.IsTied
  orderly : ∀ {earlier : List ChannelRequest}, Orderly earlier b.heldUrl →
    Orderly (earlier ++ requests) b'.heldUrl

namespace GoesOn

variable {b b' b'' : DetailBinder} {requests more : List ChannelRequest}

theorem refl (b : DetailBinder) : GoesOn b b [] :=
  ⟨rfl, rfl, rfl, rfl, id, fun h => by simpa using h⟩

theorem trans (h : GoesOn b b' requests) (h' : GoesOn b' b'' more) :
    GoesOn b b'' (requests ++ more) where
  taskId := h'.taskId.trans h.taskId
  token := h'.token.trans h.token
  baseUrl := h'.baseUrl.trans h.baseUrl
  disposed := h'.disposed.trans h.disposed
  tied ht := h'.tied (h.tied ht)
  orderly ho := by simpa using h'.orderly (h.orderly ho)

end GoesOn

theorem goesOn_phase (b : DetailBinder) (phase : DetailPhase) :
    GoesOn b { b with phase := phase } [] := by
  refine ⟨rfl, rfl, rfl, rfl, id, ?_⟩
  intro earlier ho
  rw [List.append_nil]
  exact ho

theorem goesOn_update {b : DetailBinder} {m : StreamManager Unit} (hm : b.stream = some m)
    (enabled : Bool) :
    GoesOn b { b with stream := some (m.update (some b.taskId) enabled).1 }
      (m.update (some b.taskId) enabled).2 := by
  obtain ⟨taskId, token, phase, stream, baseUrl, disposed⟩ := b
  subst hm
  refine ⟨rfl, rfl, rfl, rfl, ?_, ?_⟩
  · rintro ht _ ⟨⟩
    exact (ht m rfl).update enabled
  · intro earlier ho
    exact StreamManager.orderly_update (some taskId) enabled ho

theorem goesOn_fresh {b : DetailBinder} (hstream : b.stream = none) (slot : HandlerSlot Unit) :
    GoesOn b
      { b with
        stream := some { (StreamManager.new b.baseUrl : StreamManager Unit) with slot := slot } }
      [] := by
  obtain ⟨taskId, token, phase, stream, baseUrl, disposed⟩ := b
  subst hstream
  refine ⟨rfl, rfl, rfl, rfl, ?_, ?_⟩
  · rintro - _ ⟨⟩
    exact (StreamManager.IsFor.new taskId baseUrl).with_slot slot
  · intro earlier ho
    rw [List.append_nil]
    exact ho

theorem goesOn_evaluate (b : DetailBinder) : GoesOn b b.evaluate.1 b.evaluate.2 := by
  cases hstream : b.stream with
  | some m =>
      simp only [evaluate, hstream]
      exact goesOn_update hstream b.streamEnabled
  | none =>
      simp only [evaluate, hstream]
      split
      · exact (goesOn_fresh hstream _).trans (goesOn_update rfl b.streamEnabled)
      · exact GoesOn.refl b

theorem goesOn_applySnapshot (b : DetailBinder) (token : MountToken)
    (result : Except LoadError TaskSnapshot) :
    GoesOn b (b.applySnapshot token result).1 (b.applySnapshot token result).2.1 := by
  simp only [applySnapshot]
  split
  · exact GoesOn.refl b
  · exact (goesOn_phase b _).trans (goesOn_evaluate _)

theorem goesOn_deliver (b : DetailBinder) (call : Option (HandlerCall Unit)) :
    GoesOn b (b.deliver call) [] := by
  simp only [deliver]
  split
  · exact goesOn_phase b _
  · exact GoesOn.refl b

theorem goesOn_receive (b : DetailBinder) (answer : Option Signal) :
    GoesOn b (b.receive answer).1 (b.receive answer).2 := by
  cases hstream : b.stream with
  | none => simpa only [receive, hstream] using GoesOn.refl b
  | some m =>
      simp only [receive, hstream]
      split
      next hlive =>
        have hr := StreamManager.receive_received hlive answer
        have hreceived : GoesOn b { b with stream := some (m.receive answer).manager }
            (m.receive answer).requests := by
          obtain ⟨taskId, token, phase, stream, baseUrl, disposed⟩ := b
          subst hstream
          refine ⟨rfl, rfl, rfl, rfl, ?_, ?_⟩
          · rintro ht _ ⟨⟩
            exact (ht m rfl).received hr
          · intro earlier ho
            exact hr.orderly ho
        simpa using (hreceived.trans (goesOn_deliver _ _)).trans (goesOn_evaluate _)
      next => exact GoesOn.refl b

/-- A view that is disposed of gives its subscription up. -/
theorem orderly_dispose {b : DetailBinder} (htied : b.IsTied) (hdisposed : b.disposed = false)
    {earlier : List ChannelRequest} (ho : Orderly earlier b.heldUrl) :
    Orderly (earlier ++ b.dispose.2) none ∧ b.dispose.1.heldUrl = none := by
  obtain ⟨taskId, token, phase, stream, baseUrl, disposed⟩ := b
  obtain rfl : disposed = false := hdisposed
  cases stream with
  | none => exact ⟨by simpa [dispose, heldUrl] using ho, rfl⟩
  | some m =>
      have hnone := ((htied m rfl).with_slot m.slot.clear).heldUrl_update_false
      have horderly := StreamManager.orderly_update (some taskId) false
        (m := { m with slot := m.slot.clear }) ho
      rw [hnone] at horderly
      exact ⟨horderly, hnone⟩

theorem isTied_mount (id : TaskId) (token : MountToken) (baseUrl : String) :
    (mount id token baseUrl).IsTied := by
  simp [IsTied, mount]

end DetailBinder

end TaskMonitor
