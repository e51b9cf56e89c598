import TaskMonitor.Proofs.Json.Fields
import TaskMonitor.Task.Wire

/-! # The fields of events and envelopes

What is read of an object as an event or as an envelope depends on a few of its fields only, and
those are told here. -/

namespace TaskMonitor.Decode

open Json Json.Decode

abbrev ownFields : List String := ["task_id", "final"]

/-- The type of an event in an envelope. -/
abbrev asideType : Decoder EventType := name isNothingAside EventType.ofName?

section

variable {room : Nat} {fields fields' : List (String × Tree)} {decodeType : Decoder EventType}
  {ms : List (TextLiteral × Tree)}

/-! ## Events -/

/-- The fields that make an event. -/
structure IsEvent (decodeType : Decoder EventType) (r : Record) (e : TaskEvent) : Prop where
  id : r.field "event_id" eventId = some e.id
  sequence : r.field "task_seq" natural = some e.sequence
  occurredAt : r.field "ts" instant = some e.occurredAt
  type : r.field "type" decodeType = some e.type
  actor : r.field "actor" text = some e.actor
  payload : r.fieldOr "payload" [] members = some e.payload

theorem eventOf_eq_some_iff {r : Record} {e : TaskEvent} :
    eventOf decodeType r = some e ↔ IsEvent decodeType r e := by
  simp only [eventOf, Option.bind_eq_bind, Option.bind_eq_some_iff, Option.pure_def,
    Option.some.injEq]
  constructor
  · rintro ⟨_, hid, _, hsequence, _, hoccurred, _, htype, _, hactor, _, hpayload, rfl⟩
    exact ⟨hid, hsequence, hoccurred, htype, hactor, hpayload⟩
  · rintro ⟨hid, hsequence, hoccurred, htype, hactor, hpayload⟩
    exact ⟨_, hid, _, hsequence, _, hoccurred, _, htype, _, hactor, _, hpayload, rfl⟩

theorem eventOf_congr (h : ∀ name ∈ eventFields, fields'.lookup name = fields.lookup name) :
    eventOf decodeType ⟨room, fields'⟩ = eventOf decodeType ⟨room, fields⟩ := by
  simp only [eventFields, List.forall_mem_cons] at h
  obtain ⟨hid, hsequence, hoccurred, htype, hactor, hpayload, -⟩ := h
  simp only [eventOf, field_congr hid, field_congr hsequence, field_congr hoccurred,
    field_congr htype, field_congr hactor, fieldOr_congr hpayload]

theorem IsEvent.congr {e : TaskEvent} (h : IsEvent decodeType ⟨room, fields⟩ e)
    (hsame : ∀ name ∈ eventFields, fields'.lookup name = fields.lookup name) :
    IsEvent decodeType ⟨room, fields'⟩ e := by
  rw [← eventOf_eq_some_iff] at h ⊢
  rwa [eventOf_congr hsame]

theorem eventOf_filter {p : String → Bool} (h : ∀ name ∈ eventFields, p name = true) :
    eventOf decodeType ⟨room, fields.filter (p ·.1)⟩ = eventOf decodeType ⟨room, fields⟩ :=
  eventOf_congr fun name hname => lookup_filter (h name hname)

theorem event_object_iff {e : TaskEvent} :
    event (room + 1) (.object ms) = some e ↔ ∃ fields, keyed? ms = some fields ∧
      Once eventFields fields ∧ IsEvent eventType ⟨room, fields⟩ e := by
  have hkept : ∀ name ∈ eventFields, eventFields.contains name = true := by decide
  simp only [event, record, Option.bind_eq_some_iff, Option.map_eq_some_iff,
    fieldsOf?_eq_some_iff, ← eventOf_eq_some_iff]
  constructor
  · rintro ⟨_, ⟨_, ⟨fields, hkeyed, honce, rfl⟩, rfl⟩, hevent⟩
    exact ⟨fields, hkeyed, honce, by rwa [eventOf_filter hkept] at hevent⟩
  · rintro ⟨fields, hkeyed, honce, hevent⟩
    exact ⟨_, ⟨_, ⟨fields, hkeyed, honce, rfl⟩, rfl⟩, by rwa [eventOf_filter hkept]⟩

/-! ## Envelopes -/

structure IsEnvelope (room : Nat) (fields : List (String × Tree)) (v : Envelope) : Prop where
  own : Once ownFields fields
  once : Once eventFields fields
  values : ∀ m ∈ fields, m.1 ∉ ownFields → (Value.ofTree? room m.2).isSome = true
  event : IsEvent asideType ⟨room, fields⟩ v.event
  taskId : Record.field ⟨room, fields⟩ "task_id" taskId = some v.taskId
  final : Record.fieldOr ⟨room, fields⟩ "final" false bool = some v.final

/-- The fields that are set aside. -/
abbrev aside (fields : List (String × Tree)) : List (String × Tree) :=
  fields.filter fun m => !ownFields.contains m.1

theorem once_aside : Once eventFields (aside fields) ↔ Once eventFields fields :=
  once_filter (p := fun key => !ownFields.contains key) (by decide)

theorem eventOf_aside :
    eventOf decodeType ⟨room, (aside fields).filter (eventFields.contains ·.1)⟩ =
      eventOf decodeType ⟨room, fields⟩ :=
  (eventOf_filter (by decide)).trans
    (eventOf_filter (p := fun key => !ownFields.contains key) (by decide))

theorem values_aside :
    ((aside fields).all fun m => (Value.ofTree? room m.2).isSome) = true ↔
      ∀ m ∈ fields, m.1 ∉ ownFields → (Value.ofTree? room m.2).isSome = true := by
  simp only [List.all_eq_true, List.mem_filter, and_imp, Bool.not_eq_true', Bool.eq_false_iff,
    ne_eq, List.contains_iff_mem]

theorem envelope_object_iff {v : Envelope} :
    envelope (room + 1) (.object ms) = some v ↔
      ∃ fields, keyed? ms = some fields ∧ IsEnvelope room fields v := by
  have htask : ownFields.contains "task_id" = true := by decide
  have hfinal : ownFields.contains "final" = true := by decide
  simp only [envelope, Option.bind_eq_bind, Option.bind_eq_some_iff, fieldsOf?_eq_some_iff,
    Option.ite_none_right_eq_some, Option.pure_def, Option.some.injEq]
  constructor
  · rintro ⟨fields, hkeyed, _, ⟨hown, rfl⟩, hvalues, _, ⟨honce, rfl⟩, _, hevent, _, hid, _, hflag,
      rfl⟩
    rw [eventOf_aside] at hevent
    rw [field_congr (lookup_filter htask)] at hid
    rw [fieldOr_congr (lookup_filter hfinal)] at hflag
    exact ⟨fields, hkeyed, hown, once_aside.mp honce, values_aside.mp hvalues,
      eventOf_eq_some_iff.mp hevent, hid, hflag⟩
  · rintro ⟨fields, hkeyed, h⟩
    refine ⟨fields, hkeyed, _, ⟨h.own, rfl⟩, values_aside.mpr h.values, _,
      ⟨once_aside.mpr h.once, rfl⟩, v.event, ?_, v.taskId, ?_, v.final, ?_, rfl⟩
    · rw [eventOf_aside]
      exact eventOf_eq_some_iff.mpr h.event
    · rw [field_congr (lookup_filter htask)]
      exact h.taskId
    · rw [fieldOr_congr (lookup_filter hfinal)]
      exact h.final

end

end TaskMonitor.Decode
