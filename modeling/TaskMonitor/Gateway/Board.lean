import TaskMonitor.Gateway.Error
import TaskMonitor.Task.Basic

/-! # Task boards

A gateway in memory. -/

namespace TaskMonitor

structure TaskBoard where
  snapshots : List TaskSnapshot

namespace TaskBoard

def empty : TaskBoard := ⟨[]⟩

/-- Puts a snapshot into its place, instead of an earlier one of the same task. -/
def insertIn (s : TaskSnapshot) : List TaskSnapshot → List TaskSnapshot
  | [] => [s]
  | first :: rest =>
    if s.task.id.text < first.task.id.text then s :: first :: rest
    else if s.task.id = first.task.id then s :: rest
    else first :: insertIn s rest

def insert (b : TaskBoard) (s : TaskSnapshot) : TaskBoard := ⟨insertIn s b.snapshots⟩

def ofList (snapshots : List TaskSnapshot) : TaskBoard := snapshots.foldl insert empty

def list (b : TaskBoard) (status : Option TaskStatus) : List TaskSummary :=
  (b.snapshots.map (·.task.summary)).filter fun t => status.all (· = t.status)

def missing : ClientError := .notFound "Task not found"

def get (b : TaskBoard) (id : TaskId) : Except ClientError TaskSnapshot :=
  match b.snapshots.find? (·.task.id = id) with
  | some s => .ok s
  | none => .error missing

end TaskBoard

def loadResult (answer : Except ClientError TaskSnapshot) : Except LoadError TaskSnapshot :=
  answer.mapError ClientError.toLoadError

end TaskMonitor
