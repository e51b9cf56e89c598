import Mathlib.Data.List.Induction
import TaskMonitor.Proofs.Stream.Manager

/-! # The life of a stream manager

Whatever is done to a manager, it holds at most one subscription, for what is wanted, and shows a
status that belongs to it. -/

namespace TaskMonitor.StreamManager

open ChannelRequest

variable {α : Type}

/-! ## Histories -/

inductive Operation (α : Type) where
  | update (id : Option TaskId) (enabled : Bool)
  | dispatch (signal : Signal)
  /-- Waits for the subscription, which answers with a signal or its end. -/
  | pump (answer : Option Signal)
  | setHandler (handler : Handler α)
  | clearHandler

/-- What the manager asked of the push channel, and what came from there. -/
inductive Record where
  | asked (request : ChannelRequest)
  | arrived (signal : Signal)

structure History (α : Type) where
  manager : StreamManager α
  records : List Record

namespace History

def requests (h : History α) : List ChannelRequest :=
  h.records.filterMap fun r => match r with
    | .asked request => some request
    | .arrived _ => none

def note (h : History α) (m : StreamManager α) (arrived : Option Signal)
    (asked : List ChannelRequest) : History α :=
  ⟨m, h.records ++ (arrived.map Record.arrived).toList ++ asked.map Record.asked⟩

@[simp] theorem note_manager (h : History α) (m : StreamManager α) (arrived : Option Signal)
    (asked : List ChannelRequest) : (h.note m arrived asked).manager = m := rfl

@[simp] theorem requests_note (h : History α) (m : StreamManager α) (arrived : Option Signal)
    (asked : List ChannelRequest) :
    (h.note m arrived asked).requests = h.requests ++ asked := by
  cases arrived <;> simp [note, requests, List.filterMap_map]

def perform (h : History α) : Operation α → History α
  | .update id enabled =>
    let (m, asked) := h.manager.update id enabled
    h.note m none asked
  | .dispatch signal =>
    let d := h.manager.dispatch signal
    h.note d.manager (some signal) d.requests
  | .pump answer =>
    if h.manager.isLive then
      let d := h.manager.receive answer
      h.note d.manager answer d.requests
    else h
  | .setHandler handler =>
    { h with manager := { h.manager with slot := h.manager.slot.set handler } }
  | .clearHandler => { h with manager := { h.manager with slot := h.manager.slot.clear } }

def drop (h : History α) : History α :=
  let (m, asked) := h.manager.teardown
  h.note m none asked

end History

def run (baseUrl : String) (ops : List (Operation α)) : History α :=
  ops.foldl History.perform ⟨new baseUrl, []⟩

def lastWanted (ops : List (Operation α)) : Option (Option TaskId × Bool) :=
  ops.foldl (fun last op => match op with
    | .update id enabled => some (id, enabled)
    | _ => last) none

/-- The last signal about the connection since a subscription was opened. -/
def lifecycle? (records : List Record) : Option Signal :=
  records.foldl (fun last r => match r with
    | .asked (.open _) => none
    | .arrived .opened => some .opened
    | .arrived .interrupted => some .interrupted
    | _ => last) none

@[simp] theorem lifecycle?_append_opening (records : List Record) (url : String) :
    lifecycle? (records ++ [.asked (.open url)]) = none := by
  simp [lifecycle?]

@[simp] theorem lifecycle?_append_opened (records : List Record) :
    lifecycle? (records ++ [.arrived .opened]) = some .opened := by
  simp [lifecycle?]

@[simp] theorem lifecycle?_append_interrupted (records : List Record) :
    lifecycle? (records ++ [.arrived .interrupted]) = some .interrupted := by
  simp [lifecycle?]

@[simp] theorem lifecycle?_append_message (records : List Record) (channel data : String) :
    lifecycle? (records ++ [.arrived (.message channel data)]) = lifecycle? records := by
  simp [lifecycle?]

/-- The status of a subscription after a signal about its connection, or before the first one. -/
def statusOf : Option Signal → StreamStatus
  | none => .connecting
  | some .opened => .connected
  | some _ => .disconnected

/-! ## The invariant -/

/-- A history is consistent with what is wanted. -/
structure Consistent (baseUrl : String) (wanted : Option (Option TaskId × Bool))
    (h : History α) : Prop where
  address : h.manager.baseUrl = withoutSlashes baseUrl
  key : h.manager.key = wanted
  orderly : Orderly h.requests h.manager.heldUrl
  live : ∀ id, h.manager.subscribed = some id →
    wanted = some (some id, true) ∧ h.manager.status = statusOf (lifecycle? h.records)
  idle : h.manager.isLive = false →
    h.manager.status = .disconnected ∨ h.manager.status = .closed
  closed : h.manager.status = .closed → ∃ id enabled,
    wanted = some (some id, enabled) ∧ lastOpened h.requests = some (h.manager.streamUrl id)

theorem statusOf_ne_closed (last : Option Signal) : statusOf last ≠ .closed := by
  unfold statusOf
  split <;> simp

theorem consistent_start (baseUrl : String) :
    Consistent baseUrl none (⟨new baseUrl, []⟩ : History α) where
  address := rfl
  key := rfl
  orderly := .nothing
  live := by simp
  idle := by simp [new]
  closed := by simp [new]

namespace Consistent

variable {baseUrl : String} {wanted : Option (Option TaskId × Bool)} {h : History α}

theorem with_slot (hc : Consistent baseUrl wanted h) (slot : HandlerSlot α) :
    Consistent baseUrl wanted { h with manager := { h.manager with slot := slot } } :=
  ⟨hc.address, hc.key, hc.orderly, hc.live, hc.idle, hc.closed⟩

theorem update (hc : Consistent baseUrl wanted h) (id : Option TaskId) (enabled : Bool) :
    Consistent baseUrl (some (id, enabled)) (h.perform (.update id enabled)) := by
  have horderly := orderly_update id enabled hc.orderly
  simp only [History.perform]
  by_cases hkey : h.manager.key = some (id, enabled)
  · rw [update_of_key_eq hkey]
    have hwanted : wanted = some (id, enabled) := hc.key.symm.trans hkey
    subst hwanted
    simpa [History.note] using hc
  · rcases isOff_or id enabled with hoff | ⟨task, rfl, rfl⟩
    · rw [update_off hoff hkey] at horderly ⊢
      by_cases hkept : h.manager.key.any (·.1 = id) ∧ h.manager.status = .closed
      · -- The stream closed itself and stays closed, as the task is still the same.
        rw [if_pos hkept] at horderly ⊢
        obtain ⟨task, flag, hwanted, hlast⟩ := hc.closed hkept.2
        have hid : id = some task := by
          have hany := hkept.1
          rw [hc.key, hwanted] at hany
          simpa [eq_comm] using hany
        subst hid
        refine ⟨hc.address, rfl, by simpa using horderly, by simp, by simp [hkept.2], ?_⟩
        intro _
        refine ⟨task, enabled, rfl, ?_⟩
        rw [History.requests_note, teardown_snd]
        split <;> simpa [streamUrl] using hlast
      · rw [if_neg hkept] at horderly ⊢
        exact ⟨hc.address, rfl, by simpa using horderly, by simp, by simp, by simp⟩
    · rw [update_on hkey] at horderly ⊢
      refine ⟨hc.address, rfl, by simpa using horderly, ?_, by simp [isLive], by simp⟩
      intro other hother
      obtain rfl : task = other := by simpa using hother
      exact ⟨rfl, by simp [History.note, ← List.append_assoc, statusOf]⟩

theorem received (hc : Consistent baseUrl wanted h) {answer : Option Signal}
    {m : StreamManager α} {asked : List ChannelRequest}
    (hlive : h.manager.isLive) (hr : Received h.manager answer m asked) :
    Consistent baseUrl wanted (h.note m answer asked) := by
  have horderly : Orderly (h.note m answer asked).requests m.heldUrl := by
    simpa using hr.orderly hc.orderly
  obtain ⟨id, hid⟩ := Option.isSome_iff_exists.mp hlive
  obtain ⟨hwanted, hstatus⟩ := hc.live id hid
  cases hr with
  | opened =>
      refine ⟨hc.address, hc.key, horderly, ?_, by simp [isLive, hid], by simp⟩
      intro other hother
      exact ⟨(hc.live other hother).1, by simp [History.note, statusOf]⟩
  | interrupted =>
      refine ⟨hc.address, hc.key, horderly, ?_, by simp [isLive, hid], by simp⟩
      intro other hother
      exact ⟨(hc.live other hother).1, by simp [History.note, statusOf]⟩
  | heard channel data slot =>
      refine ⟨hc.address, hc.key, horderly, ?_, by simp [isLive, hid], ?_⟩
      · intro other hother
        exact ⟨(hc.live other hother).1, by simpa [History.note] using hstatus⟩
      · intro hclosed
        exact absurd (hstatus.symm.trans hclosed) (statusOf_ne_closed _)
  | closed _ slot =>
      refine ⟨?_, ?_, horderly, ?_, ?_, ?_⟩
      · simpa [close_fst] using hc.address
      · simpa [close_fst] using hc.key
      · simp [close_fst]
      · simp [close_fst]
      · -- What was held until now was opened last.
        intro _
        refine ⟨id, true, hwanted, ?_⟩
        have hlast : lastOpened h.requests = some (h.manager.streamUrl id) := by
          apply Orderly.lastOpened_eq
          simpa [heldUrl, hid] using hc.orderly
        rw [History.requests_note, teardown_snd, if_pos hlive, lastOpened_append_close, hlast]
        simp [close_fst, streamUrl]

theorem perform (hc : Consistent baseUrl wanted h) (op : Operation α) :
    Consistent baseUrl
      (match op with
        | .update id enabled => some (id, enabled)
        | _ => wanted)
      (h.perform op) := by
  cases op with
  | update id enabled => exact hc.update id enabled
  | dispatch signal =>
      by_cases hlive : h.manager.isLive
      · exact hc.received hlive (receive_received hlive (some signal))
      · -- The signal is dropped; nothing is held whose status it could concern.
        have hoff : h.manager.isLive = false := by simpa using hlive
        have hnone : h.manager.subscribed = none := by simpa [isLive] using hoff
        simp only [History.perform, dispatch_of_not_live hoff]
        refine ⟨hc.address, hc.key, by simpa using hc.orderly, ?_, hc.idle, ?_⟩
        · simp [hnone]
        · simpa using hc.closed
  | pump answer =>
      simp only [History.perform]
      split
      · rename_i hlive
        exact hc.received hlive (receive_received hlive answer)
      · exact hc
  | setHandler handler => exact hc.with_slot _
  | clearHandler => exact hc.with_slot _

end Consistent

theorem run_concat (baseUrl : String) (ops : List (Operation α)) (op : Operation α) :
    run baseUrl (ops ++ [op]) = (run baseUrl ops).perform op := by
  simp [run]

theorem consistent_run (baseUrl : String) (ops : List (Operation α)) :
    Consistent baseUrl (lastWanted ops) (run baseUrl ops) := by
  induction ops using List.reverseRecOn with
  | nil => exact consistent_start baseUrl
  | append_singleton ops op ih =>
      rw [run_concat]
      have hstep := ih.perform op
      cases op <;> simpa [lastWanted] using hstep

/-! ## The life of a manager -/

/-- What holds of a manager after some operations: what it opened is closed before the next one is
opened, it is live only for what is wanted, and its status fits. -/
structure Regular (ops : List (Operation α)) (h : History α) : Prop where
  balance : opened h.requests = closed h.requests + if h.manager.isLive then 1 else 0
  orderly : Orderly h.requests h.manager.heldUrl
  live : h.manager.isLive → ∃ id,
    lastWanted ops = some (some id, true) ∧
    lastOpened h.requests = some (h.manager.streamUrl id) ∧
    h.manager.status = statusOf (lifecycle? h.records)
  idle : h.manager.isLive = false →
    h.manager.status = .disconnected ∨ h.manager.status = .closed
  closed : h.manager.status = .closed → ∃ id enabled,
    lastWanted ops = some (some id, enabled) ∧
    lastOpened h.requests = some (h.manager.streamUrl id)
  dropped : h.drop.manager.isLive = false ∧ Orderly h.drop.requests none

/-- Whatever is done to a fresh manager, in any order and however often, its life is regular. -/
theorem regular_run (baseUrl : String) (ops : List (Operation α)) :
    Regular ops (run baseUrl ops) := by
  have hc := consistent_run baseUrl ops
  refine ⟨?_, hc.orderly, ?_, hc.idle, hc.closed, ?_⟩
  · simpa using hc.orderly.opened_eq
  · intro hlive
    obtain ⟨id, hid⟩ := Option.isSome_iff_exists.mp hlive
    obtain ⟨hwanted, hstatus⟩ := hc.live id hid
    have hheld : (run baseUrl ops).manager.heldUrl =
        some ((run baseUrl ops).manager.streamUrl id) := by
      simp [heldUrl, hid]
    exact ⟨id, hwanted, (hheld ▸ hc.orderly).lastOpened_eq, hstatus⟩
  · simp only [History.drop, History.note_manager, History.requests_note]
    exact ⟨by simp [teardown_fst, isLive], orderly_teardown hc.orderly⟩

end TaskMonitor.StreamManager
