import TaskMonitor.Instant.Basic
import TaskMonitor.Json.Value
import TaskMonitor.Task.Status

/-! # Tasks, events and artifacts -/

namespace TaskMonitor

/-! ## Identifiers

The gateway assigns them; they are only compared and shown. -/

structure TaskId where
  text : String
  deriving DecidableEq, Repr

structure EventId where
  text : String
  deriving DecidableEq, Repr

structure ArtifactId where
  text : String
  deriving DecidableEq, Repr

def TaskId.short (id : TaskId) : String := String.ofList (id.text.toList.take 8)

/-! ## Tasks -/

structure Requester where
  channel : String
  sender : String
  deriving DecidableEq, Repr

structure Task where
  id : TaskId
  createdAt : Instant
  updatedAt : Instant
  status : TaskStatus
  title : String
  thread : String
  scope : String
  requester : Requester
  risk : RiskLevel
  deriving DecidableEq, Repr

structure TaskSummary where
  id : TaskId
  createdAt : Instant
  updatedAt : Instant
  status : TaskStatus
  title : String
  thread : String
  scope : String
  risk : RiskLevel
  deriving DecidableEq, Repr

def Task.summary (t : Task) : TaskSummary :=
  ⟨t.id, t.createdAt, t.updatedAt, t.status, t.title, t.thread, t.scope, t.risk⟩

def Task.isTerminal (t : Task) : Bool := t.status.isTerminal

/-! ## Events -/

structure TaskEvent where
  id : EventId
  /-- Shown, and never used to order events. -/
  sequence : Nat
  occurredAt : Instant
  type : EventType
  actor : String
  payload : Json.Members
  deriving Repr

namespace TaskEvent

/-- The status that a transition leads to, if it names one that is known. -/
def target (e : TaskEvent) : Option TaskStatus :=
  if e.type = .stateTransition then
    match e.payload.lookup "to_status" with
    | some (.text s) => TaskStatus.ofName? s
    | _ => none
  else none

end TaskEvent

/-- An event as it is pushed: with the task it belongs to, and whether it is the last one. -/
structure Envelope where
  event : TaskEvent
  taskId : TaskId
  final : Bool
  deriving Repr

/-! ## Artifacts -/

structure ArtifactPart where
  type : PartType
  mime : String
  content : Option String
  uri : Option String
  deriving DecidableEq, Repr

structure Artifact where
  id : ArtifactId
  name : String
  /-- In bytes. -/
  size : Nat
  parts : List ArtifactPart
  deriving DecidableEq, Repr

/-! ## What the gateway answers -/

/-- A task at one point in time, its events in the gateway's order. -/
structure TaskSnapshot where
  task : Task
  events : List TaskEvent
  artifacts : List Artifact
  deriving Repr

end TaskMonitor
