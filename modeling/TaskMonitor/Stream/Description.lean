import TaskMonitor.Stream.Manager
import TaskMonitor.Text.Quoted

/-! # Stream managers in log lines -/

namespace TaskMonitor

def flagText (b : Bool) : String := if b then "true" else "false"

def StreamStatus.logName : StreamStatus → String
  | connecting => "Connecting"
  | connected => "Connected"
  | disconnected => "Disconnected"
  | closed => "Closed"

def optionText : Option String → String
  | none => "None"
  | some s => "Some(" ++ s ++ ")"

def recordText (name : String) (fields : List (String × String)) : String :=
  name ++ " \x7b " ++ ", ".intercalate (fields.map fun (f, v) => f ++ ": " ++ v) ++ " \x7d"

def TaskId.logText (id : TaskId) : String := "TaskId(" ++ Text.quoted id.text ++ ")"

namespace StreamManager

variable {α : Type}

/-- What is wanted, or nothing before the first update. -/
def keyText (key : Option (Option TaskId × Bool)) : String :=
  optionText (key.map fun (id, enabled) =>
    "(" ++ optionText (id.map TaskId.logText) ++ ", " ++ flagText enabled ++ ")")

def description (m : StreamManager α) : String :=
  recordText "StreamManager"
    [("base_url", Text.quoted m.baseUrl), ("key", keyText m.key), ("live", flagText m.isLive),
      ("status", m.status.logName)]

end StreamManager

def HandlerSlot.description {α : Type} (s : HandlerSlot α) : String :=
  recordText "HandlerSlot" [("set", flagText s.isSet)]

end TaskMonitor
