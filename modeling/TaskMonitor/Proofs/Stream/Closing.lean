import Mathlib.Data.List.Induction
import TaskMonitor.Proofs.Detail.Following
import TaskMonitor.Proofs.Detail.Provenance
import TaskMonitor.Proofs.Stream.Lifecycle

/-! # A stream that is closed stays closed

While a subscription is held, the handler gets the envelopes of the messages that are listened to.
The first refusal, final envelope or end of the subscription gives it up, and after that nothing
happens any more. -/

namespace TaskMonitor

/-! ## The handler slot between its calls -/

namespace HandlerSlot

variable {α : Type}

def IsIdle (s : HandlerSlot α) : Prop := s.running = none

theorem IsIdle.set {s : HandlerSlot α} (h : s.IsIdle) (handler : Handler α) :
    (s.set handler).IsIdle := h

theorem IsIdle.clear {s : HandlerSlot α} (h : s.IsIdle) : s.clear.IsIdle := h

theorem IsIdle.invoke {s : HandlerSlot α} (h : s.IsIdle) : s.invoke.1.IsIdle := by
  unfold HandlerSlot.invoke HandlerSlot.invokeBy
  split
  · exact h
  · dsimp only
    split <;> rfl

theorem IsIdle.isSome_invoke {s : HandlerSlot α} (h : s.IsIdle) :
    s.invoke.2.isSome = s.isSet := by
  have hrunning : s.running = none := h
  cases hhandler : s.handler with
  | none => simp [HandlerSlot.invoke, invokeBy, isSet, hhandler, hrunning]
  | some handler => simp [HandlerSlot.invoke, invokeBy, isSet, hhandler]

end HandlerSlot

namespace StreamManager

variable {α : Type}

/-! ## What is listened to -/

theorem isKnownChannel_iff {channel : String} :
    isKnownChannel channel = true ↔
      channel = "message" ∨ ∃ type : EventType, channel = type.name := by
  have hname : (EventType.ofName? channel).isSome = true ↔
      ∃ type : EventType, channel = type.name := by
    constructor
    · intro h
      obtain ⟨type, htype⟩ := Option.isSome_iff_exists.mp h
      exact ⟨type, by simpa [eq_comm] using List.find?_some htype⟩
    · rintro ⟨type, rfl⟩
      cases type <;> rfl
  rw [isKnownChannel, Bool.or_eq_true, decide_eq_true_eq, hname]
  rfl

theorem envelopeOf?_eq_some_iff {channel data : String} {e : Envelope} :
    envelopeOf? channel data = some e ↔
      (channel = "message" ∨ ∃ type : EventType, channel = type.name) ∧
        Json.Decoder.readText? Decode.envelope data = some e := by
  rw [← isKnownChannel_iff]
  cases hknown : isKnownChannel channel <;> simp [envelopeOf?, hknown]

/-! ## One operation -/

namespace Operation

def act (m : StreamManager α) : Operation α → Dispatched α
  | .update id enabled =>
    let (m, asked) := m.update id enabled
    ⟨m, asked, none⟩
  | .dispatch signal => m.dispatch signal
  | .pump answer => if m.isLive then m.receive answer else ⟨m, [], none⟩
  | .setHandler handler => ⟨{ m with slot := m.slot.set handler }, [], none⟩
  | .clearHandler => ⟨{ m with slot := m.slot.clear }, [], none⟩

theorem manager_perform (h : History α) (op : Operation α) :
    (h.perform op).manager = (op.act h.manager).manager := by
  cases op with
  | pump answer => simp only [History.perform, act]; split <;> rfl
  | _ => rfl

def arrival? : Operation α → Option (Option Signal)
  | .dispatch signal => some (some signal)
  | .pump answer => some answer
  | _ => none

def envelope? (op : Operation α) : Option Envelope :=
  op.arrival?.bind fun answer => answer.bind Signal.envelope?

/-- The stream is closed for good: by a refusal, a final envelope or the end of the
subscription. -/
def closes (op : Operation α) : Bool := op.arrival?.any fun answer => answer.all (·.closesStream)

/-- An update, if the operation is one, asks for the task's stream again. -/
def Repeats (id : TaskId) (op : Operation α) : Prop :=
  ∀ other enabled, op = .update other enabled → other = some id ∧ enabled = true

end Operation

theorem act_message_of_none {channel data : String} (h : envelopeOf? channel data = none)
    (m : StreamManager α) :
    Operation.act m (.dispatch (.message channel data)) = ⟨m, [], none⟩ ∧
      Operation.act m (.pump (some (.message channel data))) = ⟨m, [], none⟩ := by
  have hdispatch : m.dispatch (.message channel data) = ⟨m, [], none⟩ := by
    cases hlive : m.isLive with
    | false => exact dispatch_of_not_live hlive _
    | true => simp [dispatch, hlive, onMessage, h]
  refine ⟨hdispatch, ?_⟩
  simp only [Operation.act, receive, hdispatch]
  split <;> rfl

/-! ## While the subscription is held -/

/-- The manager holds the subscription for the task, and waits for what comes. -/
structure Streams (m : StreamManager α) (id : TaskId) : Prop where
  wanted : m.key = some (some id, true)
  live : m.isLive = true
  idle : m.slot.IsIdle

/-- The manager closed the task's stream for good, and the stream is still wanted. -/
structure IsShut (m : StreamManager α) (id : TaskId) : Prop where
  wanted : m.key = some (some id, true)
  gone : m.isLive = false
  closed : m.status = .closed

theorem Streams.with_slot {m : StreamManager α} {id : TaskId} (h : m.Streams id)
    {slot : HandlerSlot α} (hidle : slot.IsIdle) : { m with slot := slot }.Streams id :=
  ⟨h.wanted, h.live, hidle⟩

theorem Streams.setStatus {m : StreamManager α} {id : TaskId} (h : m.Streams id)
    (status : StreamStatus) : (m.setStatus status).Streams id :=
  ⟨h.wanted, h.live, h.idle⟩

theorem Streams.close {m : StreamManager α} {id : TaskId} (h : m.Streams id) :
    m.close.1.IsShut id ∧ m.close.2 = [.close] := by
  refine ⟨?_, ?_⟩
  · rw [close_fst]
    exact ⟨h.wanted, rfl, rfl⟩
  · rw [close_snd, teardown_snd, if_pos h.live]

/-- What an operation does that a live manager carries out: whether it closes the stream for good,
what it asks of the channel for that, and which envelope it hands over. -/
structure Carried (m : StreamManager α) (id : TaskId) (closes : Bool) (e? : Option Envelope)
    (d : Dispatched α) : Prop where
  goesOn : closes = false → d.manager.Streams id ∧ d.requests = []
  stops : closes = true → d.manager.IsShut id ∧ d.requests = [.close]
  handed : d.call.map (·.envelope) = if m.slot.isSet then e? else none

theorem carried_of_streams {m m' : StreamManager α} {id : TaskId} (h : m'.Streams id) :
    Carried m id false none ⟨m', [], none⟩ :=
  ⟨fun _ => ⟨h, rfl⟩, by simp, by simp⟩

theorem carried_close {m : StreamManager α} {id : TaskId} (h : m.Streams id) :
    Carried m id true none ⟨m.close.1, m.close.2, none⟩ :=
  ⟨by simp, fun _ => h.close, by simp⟩

theorem carried_onMessage {m : StreamManager α} {id : TaskId} (h : m.Streams id)
    (channel data : String) :
    Carried m id ((envelopeOf? channel data).any (·.final)) (envelopeOf? channel data)
      (m.onMessage channel data) := by
  unfold onMessage
  cases henvelope : envelopeOf? channel data with
  | none => exact carried_of_streams h
  | some e =>
      have hslot : { m with slot := m.slot.invoke.1 }.Streams id := h.with_slot h.idle.invoke
      have hcall : (m.slot.invoke.2.map fun called =>
          (⟨called.1, e, called.2⟩ : HandlerCall α)).map (·.envelope) =
            if m.slot.isSet then some e else none := by
        rw [← h.idle.isSome_invoke]
        cases m.slot.invoke.2 <;> rfl
      simp only [Option.any_some]
      cases hfinal : e.final with
      | false => exact ⟨fun _ => ⟨hslot, rfl⟩, by simp, hcall⟩
      | true => exact ⟨by simp, fun _ => hslot.close, hcall⟩

theorem carried_dispatch {m : StreamManager α} {id : TaskId} (h : m.Streams id) (s : Signal) :
    Carried m id s.closesStream s.envelope? (m.dispatch s) := by
  simp only [dispatch, h.live, Bool.not_true, Bool.false_eq_true, if_false]
  cases s with
  | opened => exact carried_of_streams (h.setStatus .connected)
  | interrupted => exact carried_of_streams (h.setStatus .disconnected)
  | refused => exact carried_close h
  | message channel data =>
      simpa [Signal.closesStream, Signal.envelope?] using carried_onMessage h channel data

theorem carried_act {m : StreamManager α} {id : TaskId} (h : m.Streams id) {op : Operation α}
    (hop : op.Repeats id) : Carried m id op.closes op.envelope? (op.act m) := by
  cases op with
  | update other enabled =>
      obtain ⟨rfl, rfl⟩ := hop other enabled rfl
      simp only [Operation.act, update_of_key_eq h.wanted]
      exact carried_of_streams h
  | dispatch signal => exact carried_dispatch h signal
  | pump answer =>
      simp only [Operation.act, h.live, if_true]
      cases answer with
      | none => exact carried_close h
      | some signal => exact carried_dispatch h signal
  | setHandler handler => exact carried_of_streams (h.with_slot (h.idle.set handler))
  | clearHandler => exact carried_of_streams (h.with_slot h.idle.clear)

/-! ## After that -/

/-- When the stream was closed for good, nothing but the slot changes any more. -/
theorem IsShut.act {m : StreamManager α} {id : TaskId} (h : m.IsShut id) {op : Operation α}
    (hop : op.Repeats id) :
    (op.act m).manager.IsShut id ∧ (op.act m).requests = [] ∧ (op.act m).call = none := by
  cases op with
  | update other enabled =>
      obtain ⟨rfl, rfl⟩ := hop other enabled rfl
      simpa [Operation.act, update_of_key_eq h.wanted] using h
  | dispatch signal => simpa [Operation.act, dispatch_of_not_live h.gone] using h
  | pump answer => simpa [Operation.act, h.gone] using h
  | setHandler handler => exact ⟨⟨h.wanted, h.gone, h.closed⟩, rfl, rfl⟩
  | clearHandler => exact ⟨⟨h.wanted, h.gone, h.closed⟩, rfl, rfl⟩

/-! ## Runs -/

def visits (m : StreamManager α) : List (Operation α) → List (StreamManager α × Operation α)
  | [] => []
  | op :: rest => (m, op) :: visits (op.act m).manager rest

def after (m : StreamManager α) (ops : List (Operation α)) : StreamManager α :=
  ops.foldl (fun m op => (op.act m).manager) m

def calls (m : StreamManager α) (ops : List (Operation α)) : List (HandlerCall α) :=
  (visits m ops).flatMap fun (before, op) => (op.act before).call.toList

def asked (m : StreamManager α) (ops : List (Operation α)) : List ChannelRequest :=
  (visits m ops).flatMap fun (before, op) => (op.act before).requests

/-- The operations up to the first that closes the stream for good, and that one. -/
def lifetime : List (Operation α) → List (Operation α)
  | [] => []
  | op :: rest => if op.closes then [op] else op :: lifetime rest

/-- The envelopes of the messages that are received while a handler is set, until the stream is
closed for good. -/
def handed (m : StreamManager α) (ops : List (Operation α)) : List Envelope :=
  (visits m (lifetime ops)).filterMap fun (before, op) =>
    if before.slot.isSet then op.envelope? else none

@[simp] theorem after_cons (m : StreamManager α) (op : Operation α) (ops : List (Operation α)) :
    m.after (op :: ops) = (op.act m).manager.after ops := rfl

@[simp] theorem calls_cons (m : StreamManager α) (op : Operation α) (ops : List (Operation α)) :
    m.calls (op :: ops) = (op.act m).call.toList ++ (op.act m).manager.calls ops := rfl

@[simp] theorem asked_cons (m : StreamManager α) (op : Operation α) (ops : List (Operation α)) :
    m.asked (op :: ops) = (op.act m).requests ++ (op.act m).manager.asked ops := rfl

/-- A stream that was closed for good stays closed, however often it is asked for again. -/
theorem IsShut.run {m : StreamManager α} {id : TaskId} (h : m.IsShut id)
    {ops : List (Operation α)} (hops : ∀ op ∈ ops, op.Repeats id) :
    (m.after ops).IsShut id ∧ m.asked ops = [] ∧ m.calls ops = [] := by
  induction ops generalizing m with
  | nil => exact ⟨h, rfl, rfl⟩
  | cons op ops ih =>
      obtain ⟨hshut, hrequests, hcall⟩ := h.act (hops op (List.mem_cons_self ..))
      obtain ⟨hafter, hasked, hcalls⟩ :=
        ih hshut fun later hlater => hops later (List.mem_cons_of_mem _ hlater)
      exact ⟨hafter, by simp [hrequests, hasked], by simp [hcall, hcalls]⟩

/-- How a manager ends up that held the subscription for the task at first. -/
structure Settled (m : StreamManager α) (id : TaskId) (ops : List (Operation α)) : Prop where
  handed : (m.calls ops).map (·.envelope) = m.handed ops
  live : ops.any (·.closes) = false → (m.after ops).Streams id ∧ m.asked ops = []
  closed : ops.any (·.closes) = true → (m.after ops).IsShut id ∧ m.asked ops = [.close]

theorem Streams.settled {m : StreamManager α} {id : TaskId} (h : m.Streams id)
    {ops : List (Operation α)} (hops : ∀ op ∈ ops, op.Repeats id) : m.Settled id ops := by
  induction ops generalizing m with
  | nil => exact ⟨rfl, fun _ => ⟨h, rfl⟩, by simp⟩
  | cons op ops ih =>
      have hrest : ∀ later ∈ ops, later.Repeats id :=
        fun later hlater => hops later (List.mem_cons_of_mem _ hlater)
      obtain ⟨hgoes, hstops, hcall⟩ := carried_act h (hops op (List.mem_cons_self ..))
      have hhanded : (op.act m).call.toList.map (·.envelope) =
          (if m.slot.isSet then op.envelope? else none).toList := by
        rw [← hcall]
        cases (op.act m).call <;> rfl
      cases hcloses : op.closes with
      | false =>
          obtain ⟨hstreams, hrequests⟩ := hgoes hcloses
          have hsettled := ih hstreams hrest
          refine ⟨?_, ?_, ?_⟩
          · simp only [calls_cons, List.map_append, hhanded, hsettled.handed]
            simp only [StreamManager.handed, lifetime, hcloses, Bool.false_eq_true, if_false,
              visits, List.filterMap_cons]
            cases (if m.slot.isSet then op.envelope? else none) <;> rfl
          · intro hnone
            simpa [hrequests] using hsettled.live (by simpa [hcloses] using hnone)
          · intro hsome
            simpa [hrequests] using hsettled.closed (by simpa [hcloses] using hsome)
      | true =>
          -- The rest finds the stream closed.
          obtain ⟨hshut, hrequests⟩ := hstops hcloses
          obtain ⟨hafter, hasked, hcalls⟩ := hshut.run hrest
          refine ⟨?_, by simp [hcloses], ?_⟩
          · simp only [calls_cons, hcalls, List.append_nil, hhanded]
            simp only [StreamManager.handed, lifetime, hcloses, if_true, visits,
              List.filterMap_cons, List.filterMap_nil]
            cases (if m.slot.isSet then op.envelope? else none) <;> rfl
          · intro _
            exact ⟨hafter, by simp [hrequests, hasked]⟩

/-! ## Managers whose subscription was just opened -/

theorem slot_update (m : StreamManager α) (id : Option TaskId) (enabled : Bool) :
    (m.update id enabled).1.slot = m.slot := by
  by_cases hkey : m.key = some (id, enabled)
  · rw [update_of_key_eq hkey]
  · rcases isOff_or id enabled with hoff | ⟨task, rfl, rfl⟩
    · rw [update_off hoff hkey]
      dsimp only
      split <;> rfl
    · rw [update_on hkey]
      rfl

theorem idle_receive {m : StreamManager α} (h : m.slot.IsIdle) (answer : Option Signal) :
    (m.receive answer).manager.slot.IsIdle := by
  have hclose : ∀ m' : StreamManager α, m'.slot.IsIdle → m'.close.1.slot.IsIdle := by
    intro m' h'
    rw [close_fst]
    exact h'
  cases answer with
  | none => exact hclose m h
  | some s =>
      simp only [receive, dispatch]
      split
      · exact h
      · cases s with
        | opened => exact h
        | interrupted => exact h
        | refused => exact hclose m h
        | message channel data =>
            simp only [onMessage]
            split
            · exact h
            · split
              · exact hclose _ h.invoke
              · exact h.invoke

theorem idle_run (baseUrl : String) (ops : List (Operation α)) :
    (run baseUrl ops).manager.slot.IsIdle := by
  induction ops using List.reverseRecOn with
  | nil => rfl
  | append_singleton ops op ih =>
      rw [run_concat, Operation.manager_perform]
      generalize (run baseUrl ops).manager = m at ih
      cases op with
      | update id enabled => simpa [Operation.act, slot_update] using ih
      | dispatch signal => exact idle_receive ih (some signal)
      | pump answer =>
          simp only [Operation.act]
          split
          · exact idle_receive ih answer
          · exact ih
      | setHandler handler => exact ih.set handler
      | clearHandler => exact ih.clear

theorem streams_update {m : StreamManager α} {id : TaskId} (hidle : m.slot.IsIdle)
    (hopened : ∃ url, .open url ∈ (m.update (some id) true).2) :
    (m.update (some id) true).1.Streams id := by
  have hkey : m.key ≠ some (some id, true) := by
    intro hkey
    simp [update_of_key_eq hkey] at hopened
  rw [update_on hkey]
  exact ⟨rfl, rfl, hidle⟩

/-- What becomes of a subscription that was just opened for the task, and of its handler: until the
first refusal, final envelope or end the handler gets what is listened to, and from then on nothing
happens. -/
structure ClosedForGood (m : StreamManager α) (id : TaskId) (ops : List (Operation α)) : Prop where
  listens : ∀ channel data e, envelopeOf? channel data = some e ↔
    (channel = "message" ∨ ∃ type : EventType, channel = type.name) ∧
      Json.Decoder.readText? Decode.envelope data = some e
  ignores : ∀ channel data, envelopeOf? channel data = none → ∀ m' : StreamManager α,
    Operation.act m' (.dispatch (.message channel data)) = ⟨m', [], none⟩ ∧
      Operation.act m' (.pump (some (.message channel data))) = ⟨m', [], none⟩
  handed : (m.calls ops).map (·.envelope) = m.handed ops
  live : (m.after ops).isLive = !ops.any (·.closes)
  givenUp : m.asked ops = if ops.any (·.closes) then [.close] else []
  closed : ops.any (·.closes) = true → ∀ later : List (Operation α),
    (∀ op ∈ later, op.Repeats id) →
      ((m.after ops).after later).status = .closed ∧ (m.after ops).calls later = [] ∧
        (m.after ops).asked later = [] ∧ ((m.after ops).after later).teardown.2 = []

/-- Whatever was done to a manager before, when an update opens a subscription, what is done next
goes by it until it is closed, and then it is closed for good. -/
theorem closedForGood_run (baseUrl : String) (earlier : List (Operation α)) (id : TaskId)
    (hopened : ∃ url, .open url ∈ ((run baseUrl earlier).manager.update (some id) true).2)
    (ops : List (Operation α)) (hops : ∀ op ∈ ops, op.Repeats id) :
    ClosedForGood ((run baseUrl earlier).manager.update (some id) true).1 id ops := by
  have hstreams := streams_update (idle_run baseUrl earlier) hopened
  generalize ((run baseUrl earlier).manager.update (some id) true).1 = m at hstreams
  have hsettled := hstreams.settled hops
  refine ⟨fun _ _ _ => envelopeOf?_eq_some_iff, fun _ _ => act_message_of_none, hsettled.handed,
    ?_, ?_, ?_⟩
  · cases hany : ops.any (·.closes) with
    | false => exact (hsettled.live hany).1.live
    | true => exact (hsettled.closed hany).1.gone
  · cases hany : ops.any (·.closes) with
    | false => exact (hsettled.live hany).2
    | true => exact (hsettled.closed hany).2
  · intro hany later hlater
    obtain ⟨hshut, hasked, hcalls⟩ := (hsettled.closed hany).1.run hlater
    exact ⟨hshut.closed, hcalls, hasked, by rw [teardown_snd, if_neg (by simp [hshut.gone])]⟩

open DetailBinder (otherText otherEnvelope readText?_otherText)

/-- The first message clears the handler that it is handed to. The final one then finds none, closes
the stream all the same, and the third one is dropped. -/
theorem closed_without_handler :
    let earlier : List (Operation Unit) := [.setHandler (.mk () [.clear])]
    let ops : List (Operation Unit) :=
      [.dispatch (.message "USER_MESSAGE" (otherText false)),
        .pump (some (.message "message" (otherText true))),
        .dispatch (.message "USER_MESSAGE" (otherText false))]
    (∃ url, .open url ∈ ((run "http://gw" earlier).manager.update (some ⟨"t1"⟩) true).2) ∧
      (∀ op ∈ ops, op.Repeats ⟨"t1"⟩) ∧
      ClosedForGood ((run "http://gw" earlier).manager.update (some ⟨"t1"⟩) true).1 ⟨"t1"⟩ ops ∧
      (((run "http://gw" earlier).manager.update (some ⟨"t1"⟩) true).1.calls ops).map
        (·.envelope) = [otherEnvelope false] := by
  intro earlier ops
  have hopened : ∃ url,
      .open url ∈ ((run "http://gw" earlier).manager.update (some ⟨"t1"⟩) true).2 :=
    ⟨_, List.mem_singleton_self _⟩
  have hops : ∀ op ∈ ops, op.Repeats ⟨"t1"⟩ := by
    intro op hop other enabled heq
    simp [ops, heq] at hop
  have hclosed := closedForGood_run "http://gw" earlier ⟨"t1"⟩ hopened ops hops
  refine ⟨hopened, hops, hclosed, ?_⟩
  have huser : ∀ final, envelopeOf? "USER_MESSAGE" (otherText final) =
      some (otherEnvelope final) := fun final =>
    envelopeOf?_eq_some_iff.mpr ⟨.inr ⟨.userMessage, rfl⟩, readText?_otherText final⟩
  have hmessage : envelopeOf? "message" (otherText true) = some (otherEnvelope true) :=
    envelopeOf?_eq_some_iff.mpr ⟨.inl rfl, readText?_otherText true⟩
  have hlifetime : lifetime ops = ops.take 2 := by
    simp [ops, lifetime, Operation.closes, Operation.arrival?, Signal.closesStream,
      Signal.envelope?, huser, hmessage, otherEnvelope]
  rw [hclosed.handed, handed, hlifetime]
  generalize hm : ((run "http://gw" earlier).manager.update (some ⟨"t1"⟩) true).1 = m
  have hslot : m.slot = HandlerSlot.empty.set (.mk () [.clear]) := by subst hm; rfl
  have hlive : m.isLive = true := by subst hm; rfl
  have hset : (HandlerSlot.empty.set (.mk () [.clear]) : HandlerSlot Unit).isSet = true := rfl
  have hcleared :
      (HandlerSlot.empty.set (.mk () [.clear]) : HandlerSlot Unit).invoke.1.isSet = false := rfl
  simp [ops, visits, Operation.envelope?, Operation.arrival?,
    Signal.envelope?, huser, Operation.act, dispatch, hlive, onMessage, otherEnvelope, hslot, hset,
    hcleared]

end StreamManager

end TaskMonitor
