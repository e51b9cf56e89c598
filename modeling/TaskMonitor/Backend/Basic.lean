import TaskMonitor.App.Message

/-! # The backend

Keeps the task list fresh while it is shown, and follows the task whose detail is open. -/

namespace TaskMonitor

/-- What the backend has done. Effects are carried out in their order. -/
inductive Effect where
  | report (report : Report)
  | checkHealth
  | listTasks (filter : Filter)
  | listSoon
  | load (token : MountToken) (id : TaskId)
  | channel (request : ChannelRequest)
  deriving Repr

inductive Notice where
  | command (command : Command)
  | tick
  | loaded (token : MountToken) (result : Except LoadError TaskSnapshot)
  | received (answer : Option Signal)

structure Backend where
  baseUrl : String
  filter : Filter
  detail : Option DetailBinder
  mounts : Nat

namespace Backend

def new (baseUrl : String) (filter : Filter) : Backend := ⟨baseUrl, filter, none, 0⟩

def publish (b : Backend) : List Effect := (b.detail.map fun d => .report (.detail d.view)).toList

def closeTask (b : Backend) : Backend × List Effect :=
  match b.detail with
  | none => (b, [])
  | some d => ({ b with detail := none }, d.dispose.2.map .channel)

/-- Mounts a view of the task, after the one before it has ended, and issues its one load. -/
def openTask (b : Backend) (id : TaskId) : Backend × List Effect :=
  let (b, closing) := b.closeTask
  let token : MountToken := ⟨b.mounts⟩
  let b := { b with detail := some (.mount id token b.baseUrl), mounts := b.mounts + 1 }
  (b, closing ++ .load token id :: b.publish)

def obey (b : Backend) : Command → Backend × List Effect
  | .refresh => (b, [.checkHealth, .listTasks b.filter])
  | .filter f => ({ b with filter := f }, [.listTasks f])
  | .open id => b.openTask id
  | .close =>
    let (b, closing) := b.closeTask
    (b, closing ++ [.listSoon])
  | .quit => b.closeTask

/-- Takes what a load gave. One that the open view did not issue changes nothing. -/
def loaded (b : Backend) (token : MountToken) (result : Except LoadError TaskSnapshot) :
    Backend × List Effect :=
  match b.detail with
  | none => (b, [])
  | some d =>
    let (d, requests, applied) := d.applySnapshot token result
    let b := { b with detail := some d }
    (b, requests.map .channel ++ if applied then b.publish else [])

def received (b : Backend) (answer : Option Signal) : Backend × List Effect :=
  match b.detail with
  | none => (b, [])
  | some d =>
    let (d, requests) := d.receive answer
    let b := { b with detail := some d }
    (b, requests.map .channel ++ b.publish)

/-- The list is refreshed only while it is shown. -/
def tick (b : Backend) : Backend × List Effect :=
  (b, if b.detail.isNone then [.listTasks b.filter] else [])

def handle (b : Backend) : Notice → Backend × List Effect
  | .command c => b.obey c
  | .tick => b.tick
  | .loaded token result => b.loaded token result
  | .received answer => b.received answer

def start (b : Backend) (task : Option TaskId) : Backend × List Effect :=
  match task with
  | none => (b, [.checkHealth])
  | some id =>
    let (b, opening) := b.openTask id
    (b, .checkHealth :: opening)

end Backend

end TaskMonitor
