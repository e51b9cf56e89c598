import TaskMonitor.Gateway.Config
import TaskMonitor.Gateway.Exchange
import TaskMonitor.Task.Wire

/-! # Calls of the gateway -/

namespace TaskMonitor

inductive GatewayCall where
  | snapshot (id : TaskId)
  | tasks (status : Option TaskStatus)
  | health
  deriving DecidableEq, Repr

namespace GatewayCall

def path : GatewayCall → String
  | snapshot id => "/api/tasks/" ++ id.text
  | tasks _ => "/api/tasks"
  | health => "/health"

/-- The query of the call goes behind the one that the address has. -/
def ask (l : Location) : GatewayCall → Location
  | snapshot _ => l.dropEmptyQuery
  | tasks none => l.dropEmptyQuery
  | tasks (some status) => l.addQuery ("status=" ++ status.name).toList
  | health => l

def location (base : String) (c : GatewayCall) : Except TransferError Location := do
  let l := c.ask (← Location.forRequest (withoutSlashes base ++ c.path))
  if l.isWeb then return l else throw (.unsupported (String.ofList l.text))

end GatewayCall

/-! ## What an answer means -/

abbrev Transfer := Except TransferError Answer

namespace Transfer

def unreadable : ClientError := .serialization "error decoding response body"

def read {α : Type} (decode : Json.Decoder α) (t : Transfer) : Except ClientError α :=
  match t with
  | .error e => .error (.transfer e)
  | .ok a =>
    if a.isSuccess then
      match a.body?.bind decode.read? with
      | some value => .ok value
      | none => .error unreadable
    else .error (.ofAnswer a.status (a.body?.getD []))

def snapshot (t : Transfer) : Except ClientError TaskSnapshot := t.read Decode.snapshot

def tasks (t : Transfer) : Except ClientError (List TaskSummary) := t.read Decode.taskList

/-- The gateway is healthy when it answers with success, whatever it says. -/
def health (t : Transfer) : Except ClientError Bool :=
  match t with
  | .error e => .error (.transfer e)
  | .ok a => .ok a.isSuccess

end Transfer

end TaskMonitor
