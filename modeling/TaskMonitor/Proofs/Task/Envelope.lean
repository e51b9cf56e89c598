import TaskMonitor.Proofs.Json.Readable
import TaskMonitor.Proofs.Json.Typed
import TaskMonitor.Proofs.Task.Fields

/-! # The same event, loaded and pushed

An event is read in two ways: as a part of a snapshot, and as the better part of an envelope that
was pushed. -/

namespace TaskMonitor.Decode

open Json Json.Decode

section

variable {room : Nat} {fields : List (String × Tree)}

/-! ## The type -/

def isNameOfEmpty : Tree → Bool
  | .object [(_, .object [])] => true
  | _ => false

theorem eventType_of_asideType {tree : Tree} {t : EventType} (h : asideType room tree = some t) :
    eventType room tree = if isNameOfEmpty tree then none else some t := by
  unfold asideType name at h
  split at h
  · exact h
  next room key value =>
    split at h
    next hnothing =>
      unfold isNothingAside at hnothing
      split at hnothing
      · exact h
      · rfl
      · cases hnothing
    next => cases h
  · cases h

theorem asideType_of_eventType {tree : Tree} {t : EventType} (h : eventType room tree = some t) :
    asideType room tree = some t := by
  unfold eventType name at h
  split at h
  · exact h
  next room key value =>
    split at h
    next hnothing =>
      unfold isNull at hnothing
      split at hnothing
      · exact h
      · cases hnothing
    next => cases h
  · cases h

/-! ## The fields of the envelope -/

/-- The fields of an envelope that its event does not have: the name of the task, and perhaps
whether this is the last event. -/
structure Own (fields : List (String × Tree)) (id : TaskId) (final : Bool) : Prop where
  taskId : ∃ literal, valuesOf "task_id" fields = [.text literal] ∧ literal.text? = some id.text
  final : valuesOf "final" fields = [.bool final] ∨ valuesOf "final" fields = [] ∧ final = false

theorem taskId_eq_some_iff {tree : Tree} {id : TaskId} :
    taskId room tree = some id ↔
      ∃ literal, tree = .text literal ∧ literal.text? = some id.text := by
  have hmk (s : String) : TaskId.mk s = id ↔ s = id.text := by cases id; simp
  simp only [taskId, Option.map_eq_some_iff, hmk, exists_eq_right]
  exact text_eq_some_iff

theorem own_iff {id : TaskId} {final : Bool} : Own fields id final ↔
    Once ownFields fields ∧ Record.field ⟨room, fields⟩ "task_id" taskId = some id ∧
      Record.fieldOr ⟨room, fields⟩ "final" false bool = some final := by
  constructor
  · rintro ⟨⟨literal, hid, htext⟩, hfinal⟩
    have honce : Once ownFields fields := by
      simp only [Once, List.forall_mem_cons, hid]
      rcases hfinal with hfinal | ⟨hfinal, -⟩ <;> simp [hfinal]
    refine ⟨honce, ?_, ?_⟩
    · rw [Record.field, (honce.lookup_eq_some_iff (by decide)).mpr hid]
      exact taskId_eq_some_iff.mpr ⟨literal, rfl, htext⟩
    · rcases hfinal with hfinal | ⟨hfinal, rfl⟩
      · rw [Record.fieldOr, (honce.lookup_eq_some_iff (by decide)).mpr hfinal]
        rfl
      · rw [Record.fieldOr, lookup_eq_none_iff.mpr hfinal]
  · rintro ⟨honce, hid, hfinal⟩
    refine ⟨?_, ?_⟩
    · obtain ⟨tree, hfound, htree⟩ := Option.bind_eq_some_iff.mp hid
      obtain ⟨literal, rfl, htext⟩ := taskId_eq_some_iff.mp htree
      exact ⟨literal, (honce.lookup_eq_some_iff (by decide)).mp hfound, htext⟩
    · unfold Record.fieldOr at hfinal
      split at hfinal
      next tree hfound =>
        obtain rfl := bool_eq_some_iff.mp hfinal
        exact .inl ((honce.lookup_eq_some_iff (by decide)).mp hfound)
      next hmissing =>
        exact .inr ⟨lookup_eq_none_iff.mp hmissing, (Option.some.inj hfinal).symm⟩

/-! ## Values -/

theorem IsEvent.isSome {e : TaskEvent} (h : IsEvent eventType ⟨room, fields⟩ e)
    (honce : Once eventFields fields) {m : String × Tree} (hm : m ∈ fields)
    (hname : m.1 ∈ eventFields) : (Value.ofTree? room m.2).isSome = true := by
  have hfound := honce.lookup_of_mem hm hname
  obtain ⟨key, tree⟩ := m
  simp only [eventFields, List.mem_cons, List.not_mem_nil, or_false] at hname
  rcases hname with rfl | rfl | rfl | rfl | rfl | rfl
  · obtain ⟨s, hid, -⟩ := Option.map_eq_some_iff.mp (read_of_field h.id hfound)
    exact isSome_of_text hid
  · exact isSome_of_natural (read_of_field h.sequence hfound)
  · obtain ⟨s, hinstant, -⟩ := Option.bind_eq_some_iff.mp (read_of_field h.occurredAt hfound)
    exact isSome_of_text hinstant
  · exact isSome_of_name (read_of_field h.type hfound)
  · exact isSome_of_text (read_of_field h.actor hfound)
  · exact isSome_of_members (read_of_fieldOr h.payload hfound)

end

/-! ## Both readings -/

/-- The key is neither one of an event nor one of an envelope. -/
def IsForeign (key : String) : Prop := key ∉ eventFields ∧ key ∉ ownFields

/-- How an object with these fields is read as an event and as an envelope. -/
structure ReadAlike (fields : List (String × Tree)) (asEvent : Option TaskEvent)
    (asEnvelope : Option Envelope) : Prop where
  /-- An event that can be pushed can be loaded and is the same, unless its type is written with an
  empty object. -/
  pushed (v : Envelope) (h : asEnvelope = some v) :
    asEvent = if (fields.lookup "type").any isNameOfEmpty then none else some v.event
  /-- An event that can be loaded can be pushed if it names its task and what is foreign to it can
  be read, and it is the same then. -/
  loaded (e : TaskEvent) (h : asEvent = some e) (v : Envelope) :
    asEnvelope = some v ↔ v.event = e ∧ Own fields v.taskId v.final ∧
      ∀ m ∈ fields, IsForeign m.1 → m.2.depth < depthLimit ∧ m.2.IsReadable

variable {room : Nat} {ms : List (TextLiteral × Tree)}

theorem event_of_envelope {v : Envelope} (h : envelope (room + 1) (.object ms) = some v) :
    event (room + 1) (.object ms) =
      if ((ms.filterMap named?).lookup "type").any isNameOfEmpty then none else some v.event := by
  obtain ⟨fields, hkeyed, henvelope⟩ := envelope_object_iff.mp h
  obtain rfl := (keyed?_eq_some_iff.mp hkeyed).2
  obtain ⟨tree, hfound, htype⟩ := Option.bind_eq_some_iff.mp henvelope.event.type
  have hread := eventType_of_asideType htype
  rw [hfound, Option.any_some]
  split
  next hempty =>
    -- The type cannot be read then.
    rw [if_pos hempty] at hread
    refine Option.eq_none_iff_forall_ne_some.mpr fun e he => ?_
    obtain ⟨fields, hkeyed', -, hevent⟩ := event_object_iff.mp he
    obtain rfl := Option.some.inj (hkeyed.symm.trans hkeyed')
    have htype' := read_of_field hevent.type hfound
    simp [hread] at htype'
  next hname =>
    rw [if_neg hname] at hread
    have htype' : Record.field ⟨room, ms.filterMap named?⟩ "type" eventType =
        some v.event.type := by
      rw [Record.field, hfound]
      exact hread
    exact event_object_iff.mpr
      ⟨_, hkeyed, henvelope.once, { henvelope.event with type := htype' }⟩

theorem envelope_of_event {e : TaskEvent} (h : event (room + 1) (.object ms) = some e)
    {v : Envelope} (hevent : v.event = e) (hown : Own (ms.filterMap named?) v.taskId v.final)
    (hforeign : ∀ m ∈ ms.filterMap named?, IsForeign m.1 →
      (Value.ofTree? room m.2).isSome = true) :
    envelope (room + 1) (.object ms) = some v := by
  obtain ⟨fields, hkeyed, honce, he⟩ := event_object_iff.mp h
  obtain rfl := (keyed?_eq_some_iff.mp hkeyed).2
  obtain ⟨hnamed, hid, hfinal⟩ := own_iff.mp hown
  subst hevent
  have htype : Record.field ⟨room, ms.filterMap named?⟩ "type" asideType = some v.event.type := by
    obtain ⟨tree, hfound, htype⟩ := Option.bind_eq_some_iff.mp he.type
    rw [Record.field, hfound]
    exact asideType_of_eventType htype
  have hvalues : ∀ m ∈ ms.filterMap named?, m.1 ∉ ownFields →
      (Value.ofTree? room m.2).isSome = true := by
    intro m hm hother
    by_cases hname : m.1 ∈ eventFields
    · exact he.isSome honce hm hname
    · exact hforeign m hm ⟨hname, hother⟩
  exact envelope_object_iff.mpr
    ⟨_, hkeyed, hnamed, honce, hvalues, { he with type := htype }, hid, hfinal⟩

/-- Whether an object is read as an event or as an envelope, the event is the same, as far as both
can be read. -/
theorem readAlike {bytes : List UInt8} (h : Tree.ofBytes? bytes = some (.object ms)) :
    ReadAlike (ms.filterMap named?) (Decoder.read? event bytes)
      (Decoder.read? envelope bytes) := by
  have hevent : Decoder.read? event bytes = event (126 + 1) (.object ms) := by
    rw [Decoder.read?, h]
    rfl
  have henvelope : Decoder.read? envelope bytes = envelope (126 + 1) (.object ms) := by
    rw [Decoder.read?, h]
    rfl
  rw [hevent, henvelope]
  refine ⟨fun v hv => event_of_envelope hv, fun e he v => ⟨fun hv => ?_, ?_⟩⟩
  · obtain ⟨fields, hkeyed, hfields⟩ := envelope_object_iff.mp hv
    obtain rfl := (keyed?_eq_some_iff.mp hkeyed).2
    have hsame : v.event = e := by
      rw [event_of_envelope hv] at he
      split at he
      · cases he
      · exact Option.some.inj he
    refine ⟨hsame, own_iff.mpr ⟨hfields.own, hfields.taskId, hfields.final⟩, ?_⟩
    intro m hm hforeign
    obtain ⟨hdepth, hreadable⟩ := Value.isSome_ofTree?_iff.mp (hfields.values m hm hforeign.2)
    exact ⟨Nat.lt_succ_of_le hdepth, hreadable⟩
  · rintro ⟨hsame, hown, hforeign⟩
    refine envelope_of_event he hsame hown fun m hm hkey => ?_
    obtain ⟨hdepth, hreadable⟩ := hforeign m hm hkey
    exact Value.isSome_ofTree?_iff.mpr ⟨Nat.le_of_lt_succ hdepth, hreadable⟩

/-! ### Texts with one more member -/

def eventText (type foreign : String) : List UInt8 :=
  Utf8.encode ("\x7b\"event_id\":\"e1\",\"task_seq\":1,\"ts\":\"2026-03-01T10:00:03Z\"," ++
    "\"actor\":\"u\",\"task_id\":\"t1\",\"type\":" ++ type ++ ",\"x\":" ++ foreign ++ "\x7d").toList

def eventMembers (foreign : Tree) : List (TextLiteral × Tree) :=
  [("event_id", .text (literal "e1")), ("task_seq", .number ⟨false, [1], none, none⟩),
    ("ts", .text (literal "2026-03-01T10:00:03Z")), ("actor", .text (literal "u")),
    ("task_id", .text (literal "t1")), ("type", .text (literal "USER_MESSAGE")),
    ("x", foreign)].map fun m => (literal m.1, m.2)

theorem own_eventMembers (foreign : Tree) :
    Own ((eventMembers foreign).filterMap named?) ⟨"t1"⟩ false := by
  rw [eventMembers, filterMap_named?]
  exact ⟨⟨_, rfl, text?_literal "t1"⟩, .inr ⟨rfl, rfl⟩⟩

theorem eq_of_isForeign {foreign : Tree} {m : String × Tree}
    (hm : m ∈ (eventMembers foreign).filterMap named?) (h : IsForeign m.1) : m.2 = foreign := by
  rw [eventMembers, filterMap_named?] at hm
  simp only [List.mem_cons, List.not_mem_nil, or_false] at hm
  rcases hm with rfl | rfl | rfl | rfl | rfl | rfl | rfl
  case inr.inr.inr.inr.inr.inr => rfl
  all_goals simp [IsForeign, eventFields] at h

set_option maxRecDepth 2000 in
theorem ofBytes?_nested :
    Tree.ofBytes? (eventText "\"USER_MESSAGE\"" "[null]") =
      some (.object (eventMembers (.array [.null]))) := by
  rfl

def hugeNumber : Tree := .number ⟨false, [1], none, some (false, [9, 9, 9])⟩

set_option maxRecDepth 2000 in
theorem ofBytes?_huge :
    Tree.ofBytes? (eventText "\"USER_MESSAGE\"" "1e999") =
      some (.object (eventMembers hugeNumber)) := by
  rfl

theorem nested_read_alike :
    Tree.ofBytes? (eventText "\"USER_MESSAGE\"" "[null]") =
        some (.object (eventMembers (.array [.null]))) ∧
      ∃ e, Decoder.read? event (eventText "\"USER_MESSAGE\"" "[null]") = some e ∧
        Decoder.read? envelope (eventText "\"USER_MESSAGE\"" "[null]") =
          some ⟨e, ⟨"t1"⟩, false⟩ := by
  have hsome : (Decoder.read? event (eventText "\"USER_MESSAGE\"" "[null]")).isSome = true := by
    decide +kernel
  obtain ⟨e, he⟩ := Option.isSome_iff_exists.mp hsome
  have hforeign : ∀ m ∈ (eventMembers (.array [.null])).filterMap named?, IsForeign m.1 →
      m.2.depth < depthLimit ∧ m.2.IsReadable := by
    intro m hm hkey
    rw [eq_of_isForeign hm hkey]
    exact ⟨by decide, .array (by simpa using .null)⟩
  exact ⟨ofBytes?_nested, e, he, ((readAlike ofBytes?_nested).loaded e he _).mpr
    ⟨rfl, own_eventMembers _, hforeign⟩⟩

/-- A type that is written with an empty object is read only in an envelope, and a foreign number
that has no value only beside an event. -/
theorem read_apart :
    ((Decoder.read? envelope (eventText "\x7b\"USER_MESSAGE\":\x7b\x7d\x7d" "1")).isSome = true ∧
      Decoder.read? event (eventText "\x7b\"USER_MESSAGE\":\x7b\x7d\x7d" "1") = none) ∧
    Tree.ofBytes? (eventText "\"USER_MESSAGE\"" "1e999") =
        some (.object (eventMembers hugeNumber)) ∧
      (Tree.object (eventMembers hugeNumber)).depth ≤ depthLimit ∧
      Own ((eventMembers hugeNumber).filterMap named?) ⟨"t1"⟩ false ∧
      (Decoder.read? event (eventText "\"USER_MESSAGE\"" "1e999")).isSome = true ∧
      Decoder.read? envelope (eventText "\"USER_MESSAGE\"" "1e999") = none := by
  simp only [← Option.isNone_iff_eq_none]
  refine ⟨by decide +kernel, ofBytes?_huge, by decide, own_eventMembers _, by decide +kernel⟩

end TaskMonitor.Decode
