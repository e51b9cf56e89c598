import TaskMonitor.Stream.Script

/-! # A stream manager on a scripted channel -/

namespace TaskMonitor

/-- A manager with the channel that it uses, and a watcher of its status. -/
structure StreamSession where
  manager : StreamManager String
  channel : ScriptedChannel
  feed : Option Feed
  dropped : Bool
  watched : Nat

inductive Pumped where
  | idle
  | handled
  | pending
  deriving DecidableEq, Repr

namespace StreamSession

def new (baseUrl : String) : StreamSession := ⟨.new baseUrl, .empty, none, false, 0⟩

def carryOut (s : StreamSession) (requests : List ChannelRequest) : StreamSession :=
  let (channel, feed) := s.channel.serveAll s.feed requests
  { s with channel := channel, feed := feed }

def update (s : StreamSession) (id : Option TaskId) (enabled : Bool) : StreamSession :=
  let (m, requests) := s.manager.update id enabled
  { s with manager := m }.carryOut requests

def settle (s : StreamSession) (d : StreamManager.Dispatched String) :
    StreamSession × Option (HandlerCall String) :=
  ({ s with manager := d.manager }.carryOut d.requests, d.call)

def dispatch (s : StreamSession) (signal : Signal) :
    StreamSession × Option (HandlerCall String) :=
  s.settle (s.manager.dispatch signal)

def pump (s : StreamSession) : StreamSession × Option (HandlerCall String) × Pumped :=
  match s.feed with
  | none => (s, none, .idle)
  | some feed =>
    let (answer, feed) := feed.next
    let s := { s with feed := some feed }
    let receive (answer : Option Signal) :=
      let (s, call) := s.settle (s.manager.receive answer)
      (s, call, Pumped.handled)
    match answer with
    | .signal signal => receive (some signal)
    | .ended => receive none
    | .pending => (s, none, .pending)

def setSlot (s : StreamSession) (slot : HandlerSlot String) : StreamSession :=
  { s with manager := { s.manager with slot := slot } }

def drop (s : StreamSession) : StreamSession :=
  let (m, requests) := s.manager.teardown
  { s with manager := m, dropped := true }.carryOut requests

def watch (s : StreamSession) : StreamSession × Bool :=
  ({ s with watched := s.manager.statusChanges }, s.watched ≠ s.manager.statusChanges)

end StreamSession

end TaskMonitor
