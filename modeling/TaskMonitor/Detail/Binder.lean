import TaskMonitor.Gateway.Error
import TaskMonitor.Stream.Manager
import TaskMonitor.Timeline.Basic

/-! # The detail view of one task -/

namespace TaskMonitor

/-- Tells one mount of a view from all others. Its number is counted without a limit: one of 64
bits comes round only after 2^64 mounts, each of which takes a key press. -/
structure MountToken where
  number : Nat
  deriving DecidableEq, Repr

inductive DetailPhase where
  | loading
  | failed (error : LoadError)
  | loaded (timeline : Timeline)

structure DetailBinder where
  taskId : TaskId
  token : MountToken
  phase : DetailPhase
  /-- Made when it is first enabled. -/
  stream : Option (StreamManager Unit)
  baseUrl : String
  disposed : Bool

structure DetailView where
  taskId : TaskId
  loading : Bool
  task : Option Task
  events : List TaskEvent
  artifacts : List Artifact
  error : Option LoadError
  streamStatus : Option StreamStatus
  streamEnabled : Bool
  deriving Repr

namespace DetailBinder

def mount (taskId : TaskId) (token : MountToken) (baseUrl : String) : DetailBinder :=
  ⟨taskId, token, .loading, none, baseUrl, false⟩

def isLoading (b : DetailBinder) : Bool :=
  match b.phase with
  | .loading => true
  | _ => false

def timeline? (b : DetailBinder) : Option Timeline :=
  match b.phase with
  | .loaded t => some t
  | _ => none

def streamEnabled (b : DetailBinder) : Bool :=
  !b.disposed && b.timeline?.any (!·.isTerminal)

def isStreaming (b : DetailBinder) : Bool := b.stream.any (·.isLive)

/-- The handler of the view's stream: it leaves the slot alone. -/
def handler : Handler Unit := .mk () []

/-- Tells the stream what is wanted. It is made only when it is to run. -/
def evaluate (b : DetailBinder) : DetailBinder × List ChannelRequest :=
  let tell (m : StreamManager Unit) :=
    let (m, requests) := m.update (some b.taskId) b.streamEnabled
    ({ b with stream := some m }, requests)
  match b.stream with
  | some m => tell m
  | none =>
    if b.streamEnabled then
      let fresh := StreamManager.new b.baseUrl
      tell { fresh with slot := fresh.slot.set handler }
    else (b, [])

/-! ## What happens to a view -/

/-- Takes the result of the load that was issued for this mount. One for another mount, a second
one, or one that comes after the view was disposed of changes nothing, and the answer is `false`. -/
def applySnapshot (b : DetailBinder) (token : MountToken)
    (result : Except LoadError TaskSnapshot) : DetailBinder × List ChannelRequest × Bool :=
  if b.disposed ∨ token ≠ b.token ∨ !b.isLoading then (b, [], false)
  else
    let phase := match result with
      | .ok snapshot => .loaded (Timeline.ofSnapshot snapshot)
      | .error e => .failed e
    let (b, requests) := { b with phase := phase }.evaluate
    (b, requests, true)

def deliver (b : DetailBinder) (call : Option (HandlerCall Unit)) : DetailBinder :=
  match call, b.phase with
  | some c, .loaded t => { b with phase := .loaded (t.apply c.envelope).1 }
  | _, _ => b

/-- Takes what the subscription answers, a signal or its end. Without a subscription nothing
comes. -/
def receive (b : DetailBinder) (answer : Option Signal) : DetailBinder × List ChannelRequest :=
  match b.stream with
  | none => (b, [])
  | some m =>
    if m.isLive then
      let d := m.receive answer
      let (b, requests) := ({ b with stream := some d.manager }.deliver d.call).evaluate
      (b, d.requests ++ requests)
    else (b, [])

/-- Ends the view: the subscription is given up, and nothing changes the view any more. -/
def dispose (b : DetailBinder) : DetailBinder × List ChannelRequest :=
  if b.disposed then (b, [])
  else
    let b := { b with disposed := true }
    match b.stream with
    | none => (b, [])
    | some m =>
      let (m, requests) := { m with slot := m.slot.clear }.update (some b.taskId) false
      ({ b with stream := some m }, requests)

def view (b : DetailBinder) : DetailView where
  taskId := b.taskId
  loading := b.isLoading
  task := b.timeline?.map (·.task)
  events := (b.timeline?.map (·.events)).getD []
  artifacts := (b.timeline?.map (·.artifacts)).getD []
  error := match b.phase with
    | .failed e => some e
    | _ => none
  streamStatus := b.stream.map (·.status)
  streamEnabled := b.streamEnabled

end DetailBinder

end TaskMonitor
