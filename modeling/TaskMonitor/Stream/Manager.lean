import TaskMonitor.EventStream.Basic
import TaskMonitor.Gateway.Config
import TaskMonitor.Stream.Handler
import TaskMonitor.Stream.Signal
import TaskMonitor.Task.Wire

/-! # The stream manager -/

namespace TaskMonitor

inductive ChannelRequest where
  | open (url : String)
  | close
  deriving DecidableEq, Repr

/-- A call of a handler: its label, the envelope, and the answers that it got from the slot. -/
structure HandlerCall (α : Type) where
  label : α
  envelope : Envelope
  answers : List Bool

/-- Keeps at most one subscription, for a task and as long as it is enabled. -/
structure StreamManager (α : Type) where
  baseUrl : String
  key : Option (Option TaskId × Bool)
  subscribed : Option TaskId
  status : StreamStatus
  statusChanges : Nat
  slot : HandlerSlot α

namespace StreamManager

variable {α : Type}

def new (baseUrl : String) : StreamManager α :=
  ⟨withoutSlashes baseUrl, none, none, .disconnected, 0, .empty⟩

def isLive (m : StreamManager α) : Bool := m.subscribed.isSome

def streamUrl (m : StreamManager α) (id : TaskId) : String :=
  m.baseUrl ++ "/api/stream/task/" ++ id.text

def setStatus (m : StreamManager α) (status : StreamStatus) : StreamManager α :=
  { m with status := status, statusChanges := m.statusChanges + 1 }

def teardown (m : StreamManager α) : StreamManager α × List ChannelRequest :=
  if m.isLive then ({ m with subscribed := none }, [.close]) else (m, [])

/-! ## What is wanted -/

/-- Takes note of the task and the flag that are wanted now. When they changed, the subscription is
given up and, if wanted, a new one opened. A stream that was closed for good is still shown so while
its task is. -/
def update (m : StreamManager α) (id : Option TaskId) (enabled : Bool) :
    StreamManager α × List ChannelRequest :=
  if m.key = some (id, enabled) then (m, [])
  else
    let sameTask := m.key.any (·.1 = id)
    let (m, closing) := { m with key := some (id, enabled) }.teardown
    match id, enabled with
    | some task, true =>
      ({ m with subscribed := some task }.setStatus .connecting,
        closing ++ [.open (m.streamUrl task)])
    | _, _ =>
      if sameTask ∧ m.status = .closed then (m, closing)
      else (m.setStatus .disconnected, closing)

/-! ## What arrives -/

/-- The channels that are listened to: the default one, and one for each type of event. -/
def isKnownChannel (channel : String) : Bool :=
  channel = EventStream.Frame.defaultChannel || (EventType.ofName? channel).isSome

/-- The envelope of a message, if it came on a known channel and can be decoded. -/
def envelopeOf? (channel data : String) : Option Envelope :=
  if isKnownChannel channel then Json.Decoder.readText? Decode.envelope data else none

def close (m : StreamManager α) : StreamManager α × List ChannelRequest :=
  let (m, closing) := m.teardown
  (m.setStatus .closed, closing)

structure Dispatched (α : Type) where
  manager : StreamManager α
  requests : List ChannelRequest
  call : Option (HandlerCall α)

/-- Hands the envelope of a message to the handler. A final one closes the stream, whether there is
a handler or not. -/
def onMessage (m : StreamManager α) (channel data : String) : Dispatched α :=
  match envelopeOf? channel data with
  | none => ⟨m, [], none⟩
  | some envelope =>
    let (slot, called) := m.slot.invoke
    let call := called.map fun (label, answers) => ⟨label, envelope, answers⟩
    let m := { m with slot := slot }
    if envelope.final then
      let (m, closing) := m.close
      ⟨m, closing, call⟩
    else ⟨m, [], call⟩

/-- Handles a signal. Without a subscription it is dropped. -/
def dispatch (m : StreamManager α) (signal : Signal) : Dispatched α :=
  if !m.isLive then ⟨m, [], none⟩
  else
    match signal with
    | .opened => ⟨m.setStatus .connected, [], none⟩
    | .interrupted => ⟨m.setStatus .disconnected, [], none⟩
    | .refused =>
      let (m, closing) := m.close
      ⟨m, closing, none⟩
    | .message channel data => m.onMessage channel data

def receive (m : StreamManager α) (answer : Option Signal) : Dispatched α :=
  match answer with
  | some signal => m.dispatch signal
  | none =>
    let (m, closing) := m.close
    ⟨m, closing, none⟩

end StreamManager

end TaskMonitor
