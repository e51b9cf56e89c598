import TaskMonitor.Proofs.Task.Wire

/-! # Reading and writing all wire data -/

namespace TaskMonitor

open Json

inductive WireType where
  | task
  | taskSummary
  | event
  | envelope
  | artifactPart
  | artifact
  | snapshot
  | taskList
  deriving DecidableEq, Repr

namespace WireType

def Data : WireType → Type
  | task => Task
  | taskSummary => TaskSummary
  | event => TaskEvent
  | envelope => Envelope
  | artifactPart => ArtifactPart
  | artifact => Artifact
  | snapshot => TaskSnapshot
  | taskList => List TaskSummary

def decoder : (w : WireType) → Decoder w.Data
  | task => Decode.task
  | taskSummary => Decode.taskSummary
  | event => Decode.event
  | envelope => Decode.envelope
  | artifactPart => Decode.artifactPart
  | artifact => Decode.artifact
  | snapshot => Decode.snapshot
  | taskList => Decode.taskList

def toValue : (w : WireType) → w.Data → Value
  | task => Task.toValue
  | taskSummary => TaskSummary.toValue
  | event => TaskEvent.toValue
  | envelope => Envelope.toValue
  | artifactPart => ArtifactPart.toValue
  | artifact => Artifact.toValue
  | snapshot => TaskSnapshot.toValue
  | taskList => taskListValue

def payloads : (w : WireType) → w.Data → List Members
  | event, (e : TaskEvent) => [e.payload]
  | envelope, (e : Envelope) => [e.event.payload]
  | snapshot, (s : TaskSnapshot) => s.events.map (·.payload)
  | _, _ => []

/-- Containers are nested in no type as deep as the limit is, apart from payloads. -/
theorem rereads (w : WireType) :
    Rereads w.decoder w.toValue (fun v => ∀ ms ∈ w.payloads v, ms.IsExact) 5 := by
  cases w with
  | task => exact Decode.rereads_task.mono (by decide) fun _ _ => trivial
  | taskSummary => exact Decode.rereads_taskSummary.mono (by decide) fun _ _ => trivial
  | event => exact Decode.rereads_event.mono (by decide) fun _ h => h _ (.head _)
  | envelope => exact Decode.rereads_envelope.mono (by decide) fun _ h => h _ (.head _)
  | artifactPart => exact Decode.rereads_artifactPart.mono (by decide) fun _ _ => trivial
  | artifact => exact Decode.rereads_artifact.mono (by decide) fun _ _ => trivial
  | snapshot =>
      exact Decode.rereads_snapshot.mono (by decide) fun _ h e he => h _ (List.mem_map_of_mem he)
  | taskList => exact Decode.rereads_taskList.mono (by decide) fun _ _ => trivial

/-- What was read from bytes is read again from the text that it is written as, if all numbers in
its payloads are integers. -/
theorem readText?_render (w : WireType) {bytes : List UInt8} {v : w.Data}
    (h : w.decoder.read? bytes = some v) (hexact : ∀ ms ∈ w.payloads v, ms.IsExact) :
    w.decoder.readText? (w.toValue v).render = some v :=
  w.rereads.readText? (by decide) h hexact

/-! ### An event -/

/-- An event in a leap second of a year of five digits. -/
def leapText : String :=
  "\x7b\"event_id\":\"e\\u00e9\\n\",\"task_seq\":18446744073709551615," ++
    "\"ts\":\"+12345-12-31T23:59:60.5Z\",\"type\":\"ERROR\",\"actor\":\"a\"," ++
    "\"payload\":\x7b\"z\":[1,-2,\x7b\"k\":null\x7d],\"a\":true\x7d\x7d"

theorem leap_event_again :
    ∃ e : TaskEvent, event.decoder.read? (Utf8.encode leapText.toList) = some e ∧
      (∀ ms ∈ event.payloads e, ms.IsExact) ∧
      e.occurredAt = ⟨⟨12345, 12, 31⟩, 86399, 1500000000⟩ ∧ e.payload.map (·.1) = ["z", "a"] ∧
      event.decoder.readText? (event.toValue e).render = some e := by
  -- Payloads have no decidable equality: of this one the keys are told.
  have hparts : (Decode.event.read? (Utf8.encode leapText.toList)).any (fun e : TaskEvent =>
      e.payload.IsExact ∧ e.occurredAt = ⟨⟨12345, 12, 31⟩, 86399, 1500000000⟩ ∧
      e.payload.map (·.1) = ["z", "a"]) := by
    decide +kernel
  obtain ⟨e, he, hparts⟩ := (Option.any_eq_true _ _).mp hparts
  simp only [decide_eq_true_eq] at hparts
  obtain ⟨hexact, htime, hkeys⟩ := hparts
  have hpayloads : ∀ ms ∈ event.payloads e, ms.IsExact := by
    simpa [payloads] using hexact
  exact ⟨e, he, hpayloads, htime, hkeys, readText?_render event he hpayloads⟩

end WireType

end TaskMonitor
