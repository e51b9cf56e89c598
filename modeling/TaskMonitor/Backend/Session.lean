import TaskMonitor.Backend.Basic
import TaskMonitor.Gateway.Board
import TaskMonitor.Stream.Subscription

/-! # A backend on a scripted gateway

No time passes: what has to be waited for does not come. -/

namespace TaskMonitor

structure BackendSession where
  backend : Backend
  gateway : ScriptedGateway
  reconnectDelay : Nat
  subscription : Option Subscription
  commands : List Command
  loads : List (MountToken × TaskId)
  listDue : Bool
  reports : List Report

namespace BackendSession

def report (s : BackendSession) (r : Report) : BackendSession :=
  { s with reports := s.reports ++ [r] }

def call (s : BackendSession) (c : GatewayCall) : BackendSession × Transfer :=
  let (gateway, transfer) := s.gateway.call s.backend.baseUrl c
  ({ s with gateway := gateway }, transfer)

def perform (s : BackendSession) : Effect → BackendSession
  | .report r => s.report r
  | .checkHealth =>
    let (s, transfer) := s.call .health
    s.report (.health (transfer.health.toOption.getD false))
  | .listTasks filter =>
    let (s, transfer) := s.call (.tasks filter)
    s.report (match transfer.tasks with
      | .ok tasks => .tasks tasks
      | .error e => .listError e.message)
  | .listSoon => { s with listDue := true }
  | .load token id => { s with loads := s.loads ++ [(token, id)] }
  | .channel (.open url) => { s with subscription := some (.start url s.reconnectDelay) }
  | .channel .close => { s with subscription := none }

def settle (s : BackendSession) (done : Backend × List Effect) : BackendSession :=
  done.2.foldl perform { s with backend := done.1 }

def tell (s : BackendSession) (n : Notice) : BackendSession := s.settle (s.backend.handle n)

def start (gateway : ScriptedGateway) (baseUrl : String) (reconnectDelay : Nat) (filter : Filter)
    (task : Option TaskId) : BackendSession :=
  let backend := Backend.new baseUrl filter
  settle ⟨backend, gateway, reconnectDelay, none, [], [], true, []⟩ (backend.start task)

def send (s : BackendSession) (c : Command) : BackendSession :=
  { s with commands := s.commands ++ [c] }

def refresh? (s : BackendSession) : Option BackendSession :=
  if s.listDue ∧ s.backend.detail.isNone then some ({ s with listDue := false }.tell .tick)
  else none

def receive? (s : BackendSession) : Option BackendSession :=
  match s.subscription with
  | none => none
  | some subscription =>
    if subscription.delay?.any (0 < ·) then none
    else
      let (gateway, subscription, reading, _) := s.gateway.next subscription
      let s := { s with gateway := gateway, subscription := some subscription }
      match reading with
      | .signal signal => some (s.tell (.received (some signal)))
      | .ended => some (s.tell (.received none))
      | .silent => none

/-- The next thing that happens: a command, a refresh, the end of a load, a signal, in this
order. -/
def advance? (s : BackendSession) : Option BackendSession :=
  match s.commands with
  | c :: rest => some ({ s with commands := rest }.tell (.command c))
  | [] =>
    match s.refresh? with
    | some s => some s
    | none =>
      match s.loads with
      | (token, id) :: rest =>
        let (s, transfer) := { s with loads := rest }.call (.snapshot id)
        some (s.tell (.loaded token (loadResult transfer.snapshot)))
      | [] => s.receive?

def runUntil (enough : Nat) : Nat → BackendSession → BackendSession
  | 0, s => s
  | bound + 1, s =>
    if enough ≤ s.reports.length then s
    else
      match s.advance? with
      | some s => s.runUntil enough bound
      | none => s

/-- Waits for reports, and takes them; fewer when no more come. Only a command may give no report,
and a load that it started: this bounds what has to happen. When a refresh is due and no command is
left, the backend goes on with it. -/
def take (s : BackendSession) (count : Nat) : BackendSession × List Report :=
  let s :=
    if count ≤ s.reports.length then s
    else
      let s := s.runUntil count (count + 2 * s.commands.length + s.loads.length)
      if s.commands.isEmpty then s.refresh?.getD s else s
  ({ s with reports := s.reports.drop count }, s.reports.take count)

def quit (s : BackendSession) : BackendSession :=
  (s.commands ++ [Command.quit]).foldl (fun s c => s.tell (.command c)) { s with commands := [] }

end BackendSession

end TaskMonitor
