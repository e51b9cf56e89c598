/-! # Classifications of tasks and events -/

namespace TaskMonitor

inductive TaskStatus where
  | created
  | running
  | queued
  | waitingInput
  | waitingApproval
  | paused
  | succeeded
  | failed
  | cancelled
  | rejected
  deriving DecidableEq, Repr, Inhabited

namespace TaskStatus

def all : List TaskStatus :=
  [created, running, queued, waitingInput, waitingApproval, paused, succeeded, failed, cancelled,
    rejected]

def name : TaskStatus → String
  | created => "CREATED"
  | running => "RUNNING"
  | queued => "QUEUED"
  | waitingInput => "WAITING_INPUT"
  | waitingApproval => "WAITING_APPROVAL"
  | paused => "PAUSED"
  | succeeded => "SUCCEEDED"
  | failed => "FAILED"
  | cancelled => "CANCELLED"
  | rejected => "REJECTED"

def isTerminal : TaskStatus → Bool
  | succeeded | failed | cancelled | rejected => true
  | _ => false

def ofName? (s : String) : Option TaskStatus := all.find? (·.name = s)

end TaskStatus

/-- What happened in an event. Its name is also the name of a channel. -/
inductive EventType where
  | taskCreated
  | userMessage
  | modelCallStarted
  | modelCallCompleted
  | modelCallFailed
  | stateTransition
  | artifactCreated
  | error
  deriving DecidableEq, Repr, Inhabited

namespace EventType

def all : List EventType :=
  [taskCreated, userMessage, modelCallStarted, modelCallCompleted, modelCallFailed,
    stateTransition, artifactCreated, error]

def name : EventType → String
  | taskCreated => "TASK_CREATED"
  | userMessage => "USER_MESSAGE"
  | modelCallStarted => "MODEL_CALL_STARTED"
  | modelCallCompleted => "MODEL_CALL_COMPLETED"
  | modelCallFailed => "MODEL_CALL_FAILED"
  | stateTransition => "STATE_TRANSITION"
  | artifactCreated => "ARTIFACT_CREATED"
  | error => "ERROR"

def ofName? (s : String) : Option EventType := all.find? (·.name = s)

end EventType

inductive RiskLevel where
  | low
  | medium
  | high
  deriving DecidableEq, Repr, Inhabited

namespace RiskLevel

def all : List RiskLevel := [low, medium, high]

def name : RiskLevel → String
  | low => "low"
  | medium => "medium"
  | high => "high"

def ofName? (s : String) : Option RiskLevel := all.find? (·.name = s)

end RiskLevel

inductive PartType where
  | text
  | file
  | json
  | image
  deriving DecidableEq, Repr, Inhabited

namespace PartType

def all : List PartType := [text, file, json, image]

def name : PartType → String
  | text => "text"
  | file => "file"
  | json => "json"
  | image => "image"

def ofName? (s : String) : Option PartType := all.find? (·.name = s)

end PartType

inductive NameError where
  | status (given : String)
  | eventType (given : String)
  deriving DecidableEq, Repr

namespace NameError

def message : NameError → String
  | status given => "Invalid task status: " ++ given
  | eventType given => "Invalid event type: " ++ given

end NameError

def TaskStatus.parse (s : String) : Except NameError TaskStatus :=
  match ofName? s with
  | some status => .ok status
  | none => .error (.status s)

def EventType.parse (s : String) : Except NameError EventType :=
  match ofName? s with
  | some type => .ok type
  | none => .error (.eventType s)

end TaskMonitor
