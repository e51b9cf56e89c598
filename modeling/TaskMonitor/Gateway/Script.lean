import TaskMonitor.Gateway.Call

/-! # Scripted gateways -/

namespace TaskMonitor

inductive Reply where
  | answer (answer : Answer)
  | dropped
  deriving DecidableEq, Repr

/-- A gateway that replies to the requests of each target in turn; the last reply to a target is
repeated. -/
structure ScriptedGateway where
  host : Option String
  replies : List (String × List Reply)
  requests : List Request
  deriving Repr

namespace ScriptedGateway

def missing : Reply := .answer ⟨404, none, [], .complete⟩

/-- Answers of these statuses never have a body. -/
def isBodiless (status : Nat) : Bool := status = 204 || status = 304

def sent : Reply → Option Answer
  | .answer a =>
    some (if isBodiless a.status then { a with chunks := [], ending := .complete } else a)
  | .dropped => none

def replyTo (g : ScriptedGateway) (target : String) : Reply :=
  match g.replies.lookup target with
  | none => missing
  | some replies =>
    let earlier := (g.requests.filter (·.target = target)).length
    (replies[min earlier (replies.length - 1)]?).getD missing

def isAt (g : ScriptedGateway) (l : Location) : Bool :=
  g.host.any fun host => l.host = some host.toList

def send (g : ScriptedGateway) (l : Location) (request : String → Request) :
    ScriptedGateway × Transfer :=
  let failed : Transfer := .error (.unanswered (String.ofList l.text))
  if g.isAt l then
    let r := request (String.ofList l.target)
    ({ g with requests := g.requests ++ [r] },
      match sent (g.replyTo r.target) with
      | some a => .ok a
      | none => failed)
  else (g, failed)

def call (g : ScriptedGateway) (base : String) (c : GatewayCall) : ScriptedGateway × Transfer :=
  match c.location base with
  | .error e => (g, .error e)
  | .ok l => g.send l .plain

/-- Asks for an event stream. An id that cannot stand in a header keeps the request from being
sent. -/
def connect (g : ScriptedGateway) (url : String) (lastEventId : Option String) :
    ScriptedGateway × Transfer :=
  match Location.forRequest url with
  | .error e => (g, .error e)
  | .ok l =>
    if l.isWeb && lastEventId.all (·.toList.all Request.isHeaderChar) then
      g.send l (Request.stream · lastEventId)
    else (g, .error (.unsupported (String.ofList l.text)))

end ScriptedGateway

end TaskMonitor
