import TaskMonitor.Proofs.Instant.WireText
import TaskMonitor.Proofs.Json.Typed
import TaskMonitor.Proofs.Task.Fields

/-! # Wire data that is read again

Each type of data that the gateway sends is read again from what it is written as. -/

namespace TaskMonitor

open Json

namespace Decode

open Json.Decode

/-- Data in which there is nothing to be exact. -/
abbrev Plain (α : Type) : α → Prop := fun _ => True

/-! ## Simple types -/

section

variable (room : Nat)

theorem returns_taskId (id : TaskId) : Returns taskId (fun id => .text id.text) room id :=
  returns_map (returns_text id.text) TaskId.mk rfl

theorem returns_eventId (id : EventId) : Returns eventId (fun id => .text id.text) room id :=
  returns_map (returns_text id.text) EventId.mk rfl

theorem returns_artifactId (id : ArtifactId) :
    Returns artifactId (fun id => .text id.text) room id :=
  returns_map (returns_text id.text) ArtifactId.mk rfl

theorem returns_status (s : TaskStatus) : Returns status (fun s => .text s.name) room s :=
  returns_name (by cases s <;> rfl)

theorem returns_riskLevel (r : RiskLevel) : Returns riskLevel (fun r => .text r.name) room r :=
  returns_name (by cases r <;> rfl)

theorem returns_partType (p : PartType) : Returns partType (fun p => .text p.name) room p :=
  returns_name (by cases p <;> rfl)

theorem returns_eventType (isNothing : Tree → Bool) (t : EventType) :
    Returns (name isNothing EventType.ofName?) (fun t => .text t.name) room t :=
  returns_name (by cases t <;> rfl)

theorem returns_optionalText (s : Option String) :
    Returns (Decode.optional text) optionalText room s := by
  cases s with
  | none => exact ⟨.null, rfl⟩
  | some s => exact ⟨.text s, by simp [optionalText, Decode.optional, text, text?_literal]⟩

end

theorem rereads_instant : Rereads instant Instant.toValue (Plain Instant) 0 := by
  intro room tree i _ h _
  obtain ⟨s, -, hs⟩ := Option.bind_eq_some_iff.mp h
  have hi := Instant.ofText?_wireText (Instant.isRegular_of_ofText? hs)
  exact ⟨.text _, by simp [instant, Instant.toValue, text, text?_literal, hi]⟩

/-! ## Tasks -/

theorem returns_requester (room : Nat) (a : Requester) :
    Returns requester Requester.toValue (room + 1) a := by
  have hchannel : Returns text .text room a.channel := returns_text a.channel
  have hsender : Returns text .text room a.sender := returns_text a.sender
  refine returns_record rfl rfl (by decide) ?_ ?_
  · simp only [Requester.toValue, Value.members, List.forall_mem_cons]
    exact ⟨hchannel.exact, hsender.exact, List.forall_mem_nil _⟩
  · simp [hchannel.field a.toValue "channel" rfl, hsender.field a.toValue "sender_id" rfl]

theorem rereads_task : Rereads task Task.toValue (Plain Task) 2 := by
  refine rereads_record (fun _ => rfl) (fun _ => rfl) (by decide) ?_
  intro room fields t hroom h _
  obtain ⟨hcreated, hupdated⟩ : Record.field ⟨room, fields⟩ "created_at" instant =
        some t.createdAt ∧
      Record.field ⟨room, fields⟩ "updated_at" instant = some t.updatedAt := by
    simp only [Option.bind_eq_bind, Option.bind_eq_some_iff, Option.pure_def,
      Option.some.injEq] at h
    obtain ⟨_, -, _, hcreated, _, hupdated, _, -, _, -, _, -, _, -, _, -, _, -, rfl⟩ := h
    exact ⟨hcreated, hupdated⟩
  obtain ⟨room, rfl⟩ := Nat.exists_eq_add_of_le' hroom
  have hid := returns_taskId (room + 1) t.id
  have hcreated := rereads_instant.field (Nat.zero_le _) hcreated trivial
  have hupdated := rereads_instant.field (Nat.zero_le _) hupdated trivial
  have hstatus := returns_status (room + 1) t.status
  have htitle : Returns text .text (room + 1) t.title := returns_text t.title
  have hthread : Returns text .text (room + 1) t.thread := returns_text t.thread
  have hscope : Returns text .text (room + 1) t.scope := returns_text t.scope
  have hrequester := returns_requester room t.requester
  have hrisk := returns_riskLevel (room + 1) t.risk
  refine ⟨?_, ?_⟩
  · simp only [Task.toValue, Value.members, List.forall_mem_cons]
    exact ⟨hid.exact, hcreated.exact, hupdated.exact, hstatus.exact, htitle.exact, hthread.exact,
      hscope.exact, hrequester.exact, hrisk.exact, List.forall_mem_nil _⟩
  · simp [hid.field t.toValue "task_id" rfl, hcreated.field t.toValue "created_at" rfl,
      hupdated.field t.toValue "updated_at" rfl, hstatus.field t.toValue "status" rfl,
      htitle.field t.toValue "title" rfl, hthread.field t.toValue "thread_id" rfl,
      hscope.field t.toValue "scope_id" rfl, hrequester.fieldOr t.toValue "requester" rfl,
      hrisk.fieldOr t.toValue "risk_level" rfl]

theorem rereads_taskSummary : Rereads taskSummary TaskSummary.toValue (Plain TaskSummary) 1 := by
  refine rereads_record (fun _ => rfl) (fun _ => rfl) (by decide) ?_
  intro room fields t _ h _
  obtain ⟨hcreated, hupdated⟩ : Record.field ⟨room, fields⟩ "created_at" instant =
        some t.createdAt ∧
      Record.field ⟨room, fields⟩ "updated_at" instant = some t.updatedAt := by
    simp only [Option.bind_eq_bind, Option.bind_eq_some_iff, Option.pure_def,
      Option.some.injEq] at h
    obtain ⟨_, -, _, hcreated, _, hupdated, _, -, _, -, _, -, _, -, _, -, rfl⟩ := h
    exact ⟨hcreated, hupdated⟩
  have hid := returns_taskId room t.id
  have hcreated := rereads_instant.field (Nat.zero_le _) hcreated trivial
  have hupdated := rereads_instant.field (Nat.zero_le _) hupdated trivial
  have hstatus := returns_status room t.status
  have htitle : Returns text .text room t.title := returns_text t.title
  have hthread : Returns text .text room t.thread := returns_text t.thread
  have hscope : Returns text .text room t.scope := returns_text t.scope
  have hrisk := returns_riskLevel room t.risk
  refine ⟨?_, ?_⟩
  · simp only [TaskSummary.toValue, Value.members, List.forall_mem_cons]
    exact ⟨hid.exact, hcreated.exact, hupdated.exact, hstatus.exact, htitle.exact, hthread.exact,
      hscope.exact, hrisk.exact, List.forall_mem_nil _⟩
  · simp [hid.field t.toValue "task_id" rfl, hcreated.field t.toValue "created_at" rfl,
      hupdated.field t.toValue "updated_at" rfl, hstatus.field t.toValue "status" rfl,
      htitle.field t.toValue "title" rfl, hthread.field t.toValue "thread_id" rfl,
      hscope.field t.toValue "scope_id" rfl, hrisk.fieldOr t.toValue "risk_level" rfl]

/-! ## Events -/

theorem returns_noMembers (room : Nat) : Returns members .object (room + 1) [] :=
  ⟨.object (List.forall_mem_nil _), rfl⟩

/-- The fields of an event are read again wherever they were written, and also as mere values. -/
theorem IsEvent.again {isNothing : Tree → Bool} {room : Nat} {fields : List (String × Tree)}
    {e : TaskEvent} (h : IsEvent (name isNothing EventType.ofName?) ⟨room + 1, fields⟩ e)
    (hexact : e.payload.IsExact) :
    (∀ m ∈ e.members, m.2.IsExact) ∧
      (∀ m ∈ e.members, (Value.ofTree? (room + 1) m.2.tree).isSome) ∧
      ∀ v : Value, (∀ name ∈ eventFields, v.members.lookup name = e.members.lookup name) →
        IsEvent (name isNothing EventType.ofName?) (written (room + 1) v) e := by
  have hid := returns_eventId (room + 1) e.id
  have hsequence := rereads_natural.field (Nat.zero_le _) h.sequence trivial
  have hoccurred := rereads_instant.field (Nat.zero_le _) h.occurredAt trivial
  have htype := returns_eventType (room + 1) isNothing e.type
  have hactor : Returns text .text (room + 1) e.actor := returns_text e.actor
  have hpayload :=
    rereads_members.fieldOr (Nat.zero_le _) (returns_noMembers room) h.payload hexact
  refine ⟨?_, ?_, fun v hsame => ?_⟩
  · simp only [TaskEvent.members, List.forall_mem_cons]
    exact ⟨hid.exact, hsequence.exact, hoccurred.exact, htype.exact, hactor.exact, hpayload.exact,
      List.forall_mem_nil _⟩
  · have hvalue (s : String) : (Value.ofTree? (room + 1) (Value.text s).tree).isSome = true := by
      simp [Value.ofTree?, text?_literal]
    simp only [TaskEvent.members, List.forall_mem_cons]
    exact ⟨hvalue _, isSome_of_natural hsequence.again, hvalue _, hvalue _, hvalue _,
      isSome_of_members hpayload.again, List.forall_mem_nil _⟩
  · simp only [eventFields, List.forall_mem_cons] at hsame
    obtain ⟨hidIn, hsequenceIn, hoccurredIn, htypeIn, hactorIn, hpayloadIn, -⟩ := hsame
    exact ⟨hid.field v _ hidIn, hsequence.field v _ hsequenceIn, hoccurred.field v _ hoccurredIn,
      htype.field v _ htypeIn, hactor.field v _ hactorIn, hpayload.fieldOr v _ hpayloadIn []⟩

theorem rereads_event : Rereads event TaskEvent.toValue (·.payload.IsExact) 2 := by
  refine rereads_record (fun _ => rfl) (fun _ => rfl) (by decide) ?_
  intro room fields e hroom h hexact
  obtain ⟨room, rfl⟩ := Nat.exists_eq_add_of_le' hroom
  obtain ⟨hmembers, -, hagain⟩ := (eventOf_eq_some_iff.mp h).again hexact
  exact ⟨hmembers, eventOf_eq_some_iff.mpr (hagain e.toValue fun _ _ => rfl)⟩

def ownMembers (e : Envelope) : Members :=
  [("task_id", .text e.taskId.text), ("final", .bool e.final)]

theorem key_mem_ownFields (e : Envelope) : ∀ m ∈ ownMembers e, m.1 ∈ ownFields := by
  simp only [ownMembers, List.forall_mem_cons]
  exact ⟨List.mem_cons_self, List.mem_cons_of_mem _ List.mem_cons_self, List.forall_mem_nil _⟩

theorem once_envelope (names : List String) (room : Nat) (e : Envelope) :
    Once names (written room e.toValue).fields := by
  refine once_of_nodup ?_
  change (eventFields ++ ownFields).Nodup
  decide

theorem lookup_envelope (e : Envelope) : ∀ name ∈ eventFields,
    e.toValue.members.lookup name = e.event.members.lookup name := by
  simp only [eventFields, List.forall_mem_cons]
  exact ⟨rfl, rfl, rfl, rfl, rfl, rfl, List.forall_mem_nil _⟩

theorem rereads_envelope : Rereads envelope Envelope.toValue (·.event.payload.IsExact) 2 := by
  intro room tree e hroom h hexact
  obtain ⟨room, rfl⟩ := Nat.exists_eq_add_of_le' hroom
  cases tree with
  | object ms =>
      obtain ⟨fields, -, hfields⟩ := envelope_object_iff.mp h
      obtain ⟨hmembers, hvalues, hagain⟩ := hfields.event.again hexact
      have hid := returns_taskId (room + 1) e.taskId
      have hfinal : Returns bool .bool (room + 1) e.final := returns_bool e.final
      have hown : ∀ m ∈ ownMembers e, m.2.IsExact := by
        simp only [ownMembers, List.forall_mem_cons]
        exact ⟨hid.exact, hfinal.exact, List.forall_mem_nil _⟩
      refine ⟨.object (List.forall_mem_append.mpr ⟨hmembers, hown⟩), ?_⟩
      have htree : e.toValue.tree =
          .object ((e.event.members ++ ownMembers e).map fun m => (literal m.1, m.2.tree)) :=
        Value.tree_object _
      rw [htree]
      refine envelope_object_iff.mpr ⟨_, keyed?_written _, {
        own := once_envelope _ (room + 1) e
        once := once_envelope _ (room + 1) e
        values := ?_
        event := hagain e.toValue (lookup_envelope e)
        taskId := hid.field e.toValue "task_id" rfl
        final := hfinal.fieldOr e.toValue "final" rfl false }⟩
      intro m hm hother
      obtain ⟨m, hmem, rfl⟩ := List.mem_map.mp hm
      rcases List.mem_append.mp hmem with hmem | hmem
      · exact hvalues m hmem
      · exact absurd (key_mem_ownFields e m hmem) hother
  | _ => simp [envelope] at h

/-! ## Artifacts -/

theorem rereads_artifactPart :
    Rereads artifactPart ArtifactPart.toValue (Plain ArtifactPart) 1 := by
  refine rereads_record (fun _ => rfl) (fun _ => rfl) (by decide) ?_
  intro room _ p _ _ _
  have htype := returns_partType room p.type
  have hmime : Returns text .text room p.mime := returns_text p.mime
  have hcontent := returns_optionalText room p.content
  have huri := returns_optionalText room p.uri
  refine ⟨?_, ?_⟩
  · simp only [ArtifactPart.toValue, Value.members, List.forall_mem_cons]
    exact ⟨htype.exact, hmime.exact, hcontent.exact, huri.exact, List.forall_mem_nil _⟩
  · simp [htype.field p.toValue "type" rfl, hmime.fieldOr p.toValue "mime" rfl,
      hcontent.fieldOr p.toValue "content" rfl, huri.fieldOr p.toValue "uri" rfl]

theorem returns_nil {α : Type} (decode : Decoder α) (write : α → Value) (room : Nat) :
    Returns (list decode) (fun as => .array (as.map write)) (room + 1) [] :=
  ⟨.array (List.forall_mem_nil _), rfl⟩

theorem rereads_artifact : Rereads artifact Artifact.toValue (Plain Artifact) 3 := by
  refine rereads_record (fun _ => rfl) (fun _ => rfl) (by decide) ?_
  intro room fields a hroom h _
  obtain ⟨hsize, hparts⟩ : Record.fieldOr ⟨room, fields⟩ "size" 0 natural = some a.size ∧
      Record.fieldOr ⟨room, fields⟩ "parts" [] (list artifactPart) = some a.parts := by
    simp only [Option.bind_eq_bind, Option.bind_eq_some_iff, Option.pure_def,
      Option.some.injEq] at h
    obtain ⟨_, -, _, -, _, hsize, _, hparts, rfl⟩ := h
    exact ⟨hsize, hparts⟩
  obtain ⟨room, rfl⟩ := Nat.exists_eq_add_of_le' hroom
  have hid := returns_artifactId (room + 2) a.id
  have hname : Returns text .text (room + 2) a.name := returns_text a.name
  have hsize := rereads_natural.fieldOr (Nat.zero_le _) (returns_natural (by decide)) hsize trivial
  have hparts := (rereads_list rereads_artifactPart).fieldOr hroom (returns_nil _ _ _) hparts
    fun _ _ => trivial
  refine ⟨?_, ?_⟩
  · simp only [Artifact.toValue, Value.members, List.forall_mem_cons]
    exact ⟨hid.exact, hname.exact, hsize.exact, hparts.exact, List.forall_mem_nil _⟩
  · simp [hid.field a.toValue "artifact_id" rfl, hname.field a.toValue "name" rfl,
      hsize.fieldOr a.toValue "size" rfl, hparts.fieldOr a.toValue "parts" rfl]

/-! ## Answers of the gateway -/

theorem rereads_snapshot :
    Rereads snapshot TaskSnapshot.toValue (fun s => ∀ e ∈ s.events, e.payload.IsExact) 5 := by
  refine rereads_record (fun _ => rfl) (fun _ => rfl) (by decide) ?_
  intro room fields s hroom h hexact
  obtain ⟨htask, hevents, hartifacts⟩ : Record.field ⟨room, fields⟩ "task" task = some s.task ∧
      Record.fieldOr ⟨room, fields⟩ "events" [] (list event) = some s.events ∧
      Record.fieldOr ⟨room, fields⟩ "artifacts" [] (list artifact) = some s.artifacts := by
    simp only [Option.bind_eq_bind, Option.bind_eq_some_iff, Option.pure_def,
      Option.some.injEq] at h
    obtain ⟨_, htask, _, hevents, _, hartifacts, rfl⟩ := h
    exact ⟨htask, hevents, hartifacts⟩
  obtain ⟨room, rfl⟩ := Nat.exists_eq_add_of_le' hroom
  have htask := rereads_task.field (by simp only; omega) htask trivial
  have hevents := (rereads_list rereads_event).fieldOr (by simp only; omega)
    (returns_nil _ _ _) hevents hexact
  have hartifacts := (rereads_list rereads_artifact).fieldOr (by simp only; omega)
    (returns_nil _ _ _) hartifacts fun _ _ => trivial
  refine ⟨?_, ?_⟩
  · simp only [TaskSnapshot.toValue, Value.members, List.forall_mem_cons]
    exact ⟨htask.exact, hevents.exact, hartifacts.exact, List.forall_mem_nil _⟩
  · simp [htask.field s.toValue "task" rfl, hevents.fieldOr s.toValue "events" rfl,
      hartifacts.fieldOr s.toValue "artifacts" rfl]

theorem rereads_taskList :
    Rereads taskList taskListValue (Plain (List TaskSummary)) 3 := by
  refine rereads_record (fun _ => rfl) (fun _ => rfl) (by decide) ?_
  intro room fields ts hroom h _
  have htasks := (rereads_list rereads_taskSummary).field hroom h fun _ _ => trivial
  refine ⟨?_, htasks.field (taskListValue ts) "tasks" rfl⟩
  simp only [taskListValue, Value.members, List.forall_mem_cons]
  exact ⟨htasks.exact, List.forall_mem_nil _⟩

end Decode

end TaskMonitor
