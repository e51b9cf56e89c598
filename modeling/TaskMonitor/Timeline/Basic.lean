import Std.Data.HashSet
import TaskMonitor.Task.Basic

/-! # Timelines -/

namespace TaskMonitor

deriving instance Hashable for EventId

/-! ## Merging one event -/

/-- Adds the event of an envelope at the end, unless one with its id is there. -/
def merge (events : List TaskEvent) (envelope : Envelope) : List TaskEvent :=
  if events.any (·.id = envelope.event.id) then events else events ++ [envelope.event]

def Envelope.target (e : Envelope) : Option TaskStatus := e.event.target

structure StatusChange where
  before : TaskStatus
  after : TaskStatus
  deriving DecidableEq, Repr

def StatusChange.entersTerminal (c : StatusChange) : Bool :=
  !c.before.isTerminal && c.after.isTerminal

/-! ## Timelines -/

/-- A task with its events, in the order of arrival, and its artifacts. The ids of the events are
indexed, so that a duplicate is found without a scan. -/
structure Timeline where
  task : Task
  events : List TaskEvent
  artifacts : List Artifact
  seen : Std.HashSet EventId

inductive Merged where
  | appended (change : Option StatusChange)
  | duplicate
  | foreign (taskId : TaskId)
  deriving DecidableEq, Repr

namespace Timeline

/-- The events whose ids are not seen yet, the first of each, and the ids seen after them. -/
def firsts (seen : Std.HashSet EventId) :
    List TaskEvent → List TaskEvent × Std.HashSet EventId
  | [] => ([], seen)
  | e :: rest =>
    if seen.contains e.id then firsts seen rest
    else
      let (kept, seen) := firsts (seen.insert e.id) rest
      (e :: kept, seen)

/-- The timeline of a snapshot. Of events with one id the first is kept. -/
def ofSnapshot (s : TaskSnapshot) : Timeline :=
  let (events, seen) := firsts ∅ s.events
  ⟨s.task, events, s.artifacts, seen⟩

def status (t : Timeline) : TaskStatus := t.task.status

def isTerminal (t : Timeline) : Bool := t.task.isTerminal

def contains (t : Timeline) (id : EventId) : Bool := t.seen.contains id

/-- Takes on a status, if it is another one and the task has not ended. The gateway is trusted with
the order of statuses. -/
def transition (t : Timeline) (after : TaskStatus) : Timeline × Option StatusChange :=
  if t.status.isTerminal ∨ t.status = after then (t, none)
  else ({ t with task := { t.task with status := after } }, some ⟨t.status, after⟩)

/-- Adds the event of an envelope, if it is of this task and new, and follows the transition that
it stands for. -/
def apply (t : Timeline) (e : Envelope) : Timeline × Merged :=
  if e.taskId ≠ t.task.id then (t, .foreign e.taskId)
  else if t.seen.contains e.event.id then (t, .duplicate)
  else
    let added := { t with events := merge t.events e, seen := t.seen.insert e.event.id }
    match e.target with
    | none => (added, .appended none)
    | some after =>
      let (moved, change) := added.transition after
      (moved, .appended change)

def applyAll (t : Timeline) (es : List Envelope) : Timeline :=
  es.foldl (fun t e => (t.apply e).1) t

end Timeline

end TaskMonitor
