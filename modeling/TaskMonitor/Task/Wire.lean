import TaskMonitor.Instant.Reader
import TaskMonitor.Json.Decoder
import TaskMonitor.Task.Basic

/-! # Tasks, events and artifacts as JSON -/

namespace TaskMonitor

open Json

/-! ## Writing -/

def optionalText : Option String → Value
  | some s => .text s
  | none => .null

def Instant.toValue (i : Instant) : Value := .text i.wireText

def Requester.toValue (r : Requester) : Value :=
  .object [("channel", .text r.channel), ("sender_id", .text r.sender)]

def Task.toValue (t : Task) : Value :=
  .object
    [("task_id", .text t.id.text), ("created_at", t.createdAt.toValue),
      ("updated_at", t.updatedAt.toValue), ("status", .text t.status.name),
      ("title", .text t.title), ("thread_id", .text t.thread), ("scope_id", .text t.scope),
      ("requester", t.requester.toValue), ("risk_level", .text t.risk.name)]

def TaskSummary.toValue (t : TaskSummary) : Value :=
  .object
    [("task_id", .text t.id.text), ("created_at", t.createdAt.toValue),
      ("updated_at", t.updatedAt.toValue), ("status", .text t.status.name),
      ("title", .text t.title), ("thread_id", .text t.thread), ("scope_id", .text t.scope),
      ("risk_level", .text t.risk.name)]

def TaskEvent.members (e : TaskEvent) : Members :=
  [("event_id", .text e.id.text), ("task_seq", .integer e.sequence), ("ts", e.occurredAt.toValue),
    ("type", .text e.type.name), ("actor", .text e.actor), ("payload", .object e.payload)]

def TaskEvent.toValue (e : TaskEvent) : Value := .object e.members

def Envelope.toValue (e : Envelope) : Value :=
  .object (e.event.members ++ [("task_id", .text e.taskId.text), ("final", .bool e.final)])

def ArtifactPart.toValue (p : ArtifactPart) : Value :=
  .object
    [("type", .text p.type.name), ("mime", .text p.mime), ("content", optionalText p.content),
      ("uri", optionalText p.uri)]

def Artifact.toValue (a : Artifact) : Value :=
  .object
    [("artifact_id", .text a.id.text), ("name", .text a.name), ("size", .integer a.size),
      ("parts", .array (a.parts.map ArtifactPart.toValue))]

def TaskSnapshot.toValue (s : TaskSnapshot) : Value :=
  .object
    [("task", s.task.toValue), ("events", .array (s.events.map TaskEvent.toValue)),
      ("artifacts", .array (s.artifacts.map Artifact.toValue))]

def taskListValue (tasks : List TaskSummary) : Value :=
  .object [("tasks", .array (tasks.map TaskSummary.toValue))]

/-! ## Reading -/

namespace Decode

open Json.Decode

def instant : Decoder Instant := fun room tree =>
  (text room tree).bind Instant.ofText?

def taskId : Decoder TaskId := fun room tree => (text room tree).map TaskId.mk
def eventId : Decoder EventId := fun room tree => (text room tree).map EventId.mk
def artifactId : Decoder ArtifactId := fun room tree => (text room tree).map ArtifactId.mk

def status : Decoder TaskStatus := name isNull TaskStatus.ofName?
def eventType : Decoder EventType := name isNull EventType.ofName?
def riskLevel : Decoder RiskLevel := name isNull RiskLevel.ofName?
def partType : Decoder PartType := name isNull PartType.ofName?

def requester : Decoder Requester := fun room tree => do
  let r ← record ["channel", "sender_id"] room tree
  return { channel := ← r.field "channel" text, sender := ← r.field "sender_id" text }

def task : Decoder Task := fun room tree => do
  let r ← record
    ["task_id", "created_at", "updated_at", "status", "title", "thread_id", "scope_id", "requester",
      "risk_level"] room tree
  return {
    id := ← r.field "task_id" taskId
    createdAt := ← r.field "created_at" instant
    updatedAt := ← r.field "updated_at" instant
    status := ← r.field "status" status
    title := ← r.field "title" text
    thread := ← r.field "thread_id" text
    scope := ← r.field "scope_id" text
    requester := ← r.fieldOr "requester" ⟨"", ""⟩ requester
    risk := ← r.fieldOr "risk_level" .low riskLevel }

def taskSummary : Decoder TaskSummary := fun room tree => do
  let r ← record
    ["task_id", "created_at", "updated_at", "status", "title", "thread_id", "scope_id",
      "risk_level"] room tree
  return {
    id := ← r.field "task_id" taskId
    createdAt := ← r.field "created_at" instant
    updatedAt := ← r.field "updated_at" instant
    status := ← r.field "status" status
    title := ← r.field "title" text
    thread := ← r.field "thread_id" text
    scope := ← r.field "scope_id" text
    risk := ← r.fieldOr "risk_level" .low riskLevel }

def eventFields : List String := ["event_id", "task_seq", "ts", "type", "actor", "payload"]

/-- An event from its fields; the payload may be missing. -/
def eventOf (eventType : Decoder EventType) (r : Record) : Option TaskEvent := do
  return {
    id := ← r.field "event_id" eventId
    sequence := ← r.field "task_seq" natural
    occurredAt := ← r.field "ts" instant
    type := ← r.field "type" eventType
    actor := ← r.field "actor" text
    payload := ← r.fieldOr "payload" [] members }

def event : Decoder TaskEvent := fun room tree =>
  (record eventFields room tree).bind (eventOf eventType)

/-- In a value that was set aside, an empty object stands for nothing as well. -/
def isNothingAside : Tree → Bool
  | .null => true
  | .object [] => true
  | _ => false

/-- An envelope is an object. The members that are not its own are set aside as values before the
event is read from them, so each of them has to have a value, known or not. -/
def envelope : Decoder Envelope
  | room + 1, .object ms => do
    let all ← keyed? ms
    let own := ["task_id", "final"]
    let r : Record := ⟨room, ← fieldsOf? own all⟩
    let aside := all.filter fun m => !own.contains m.1
    if aside.all fun m => (Value.ofTree? room m.2).isSome then
      let fields ← fieldsOf? eventFields aside
      return {
        event := ← eventOf (name isNothingAside EventType.ofName?) ⟨room, fields⟩
        taskId := ← r.field "task_id" taskId
        final := ← r.fieldOr "final" false bool }
    else none
  | _, _ => none

def artifactPart : Decoder ArtifactPart := fun room tree => do
  let r ← record ["type", "mime", "content", "uri"] room tree
  return {
    type := ← r.field "type" partType
    mime := ← r.fieldOr "mime" "text/plain" text
    content := ← r.fieldOr "content" none (optional text)
    uri := ← r.fieldOr "uri" none (optional text) }

def artifact : Decoder Artifact := fun room tree => do
  let r ← record ["artifact_id", "name", "size", "parts"] room tree
  return {
    id := ← r.field "artifact_id" artifactId
    name := ← r.field "name" text
    size := ← r.fieldOr "size" 0 natural
    parts := ← r.fieldOr "parts" [] (list artifactPart) }

def snapshot : Decoder TaskSnapshot := fun room tree => do
  let r ← record ["task", "events", "artifacts"] room tree
  return {
    task := ← r.field "task" task
    events := ← r.fieldOr "events" [] (list event)
    artifacts := ← r.fieldOr "artifacts" [] (list artifact) }

def taskList : Decoder (List TaskSummary) := fun room tree => do
  let r ← record ["tasks"] room tree
  r.field "tasks" (list taskSummary)

end Decode

end TaskMonitor
