import TaskMonitor.Proofs.Json.Objects
import TaskMonitor.Proofs.Task.Envelope

/-! # The order of an envelope's members

An envelope is the same in whatever order its members stand, and whatever foreign members stand
among them. -/

namespace TaskMonitor.Decode

open Json Json.Decode

/-! ## Fields -/

section

variable {room : Nat} {fields fields' added : List (String × Tree)}

theorem IsEnvelope.perm {v : Envelope} (h : IsEnvelope room fields v)
    (hperm : fields'.Perm (fields ++ added)) (hforeign : ∀ m ∈ added, IsForeign m.1)
    (hvalues : ∀ m ∈ added, (Value.ofTree? room m.2).isSome = true) :
    IsEnvelope room fields' v := by
  have hother : ∀ m ∈ added, m.1 ∉ eventFields := fun m hm => (hforeign m hm).1
  have hother' : ∀ m ∈ added, m.1 ∉ ownFields := fun m hm => (hforeign m hm).2
  have hown {name : String} (hname : name ∈ ownFields) :
      fields'.lookup name = fields.lookup name := h.own.lookup_eq hperm hother' hname
  exact {
    own := h.own.perm hperm hother'
    once := h.once.perm hperm hother
    values := by
      intro m hm hkey
      rcases List.mem_append.mp (hperm.subset hm) with hm | hm
      · exact h.values m hm hkey
      · exact hvalues m hm
    event := h.event.congr fun name hname => h.once.lookup_eq hperm hother hname
    taskId := (field_congr (hown (by decide))).trans h.taskId
    final := (fieldOr_congr (hown (by decide))).trans h.final }

end

/-! ## Texts -/

/-- A member that an envelope may have besides those that it needs: its key is foreign, and its
value can be read. -/
structure IsForeignMember (m : TextLiteral × Tree) : Prop where
  key : ∃ key, m.1.text? = some key ∧ IsForeign key
  depth : m.2.depth < depthLimit
  readable : m.2.IsReadable

theorem envelope_limit_iff {ms : List (TextLiteral × Tree)} {v : Envelope} :
    envelope depthLimit (.object ms) = some v ↔
      ∃ fields, keyed? ms = some fields ∧ IsEnvelope 126 fields v :=
  envelope_object_iff

theorem envelope_perm {ms ms' added : List (TextLiteral × Tree)} {v : Envelope}
    (h : envelope depthLimit (.object ms) = some v) (hperm : ms'.Perm (ms ++ added))
    (hadded : ∀ m ∈ added, IsForeignMember m) : envelope depthLimit (.object ms') = some v := by
  obtain ⟨fields, hkeyed, henvelope⟩ := envelope_limit_iff.mp h
  obtain ⟨hkeys, rfl⟩ := keyed?_eq_some_iff.mp hkeyed
  have hkeys' : ∀ m ∈ ms', m.1.text?.isSome = true := by
    intro m hm
    rcases List.mem_append.mp (hperm.subset hm) with hm | hm
    · exact hkeys m hm
    · obtain ⟨key, hkey, -⟩ := (hadded m hm).key
      simp [hkey]
  have hfields : (ms'.filterMap named?).Perm (ms.filterMap named? ++ added.filterMap named?) := by
    rw [← List.filterMap_append]
    exact hperm.filterMap named?
  have hnamed : ∀ m ∈ added.filterMap named?, IsForeign m.1 ∧
      (Value.ofTree? 126 m.2).isSome = true := by
    intro m hm
    obtain ⟨⟨key, value⟩, hmem, hname⟩ := List.mem_filterMap.mp hm
    obtain ⟨⟨k, hk, hforeign⟩, hdepth, hreadable⟩ := hadded _ hmem
    obtain rfl : (k, value) = m := by simpa [named?, hk] using hname
    exact ⟨hforeign, Value.isSome_ofTree?_iff.mpr ⟨Nat.le_of_lt_succ hdepth, hreadable⟩⟩
  have henvelope' := henvelope.perm hfields (fun m hm => (hnamed m hm).1) fun m hm =>
    (hnamed m hm).2
  exact envelope_limit_iff.mpr ⟨_, keyed?_eq_some_iff.mpr ⟨hkeys', rfl⟩, henvelope'⟩

theorem ne_nil_of_envelope {ms : List (TextLiteral × Tree)} {v : Envelope}
    (h : envelope depthLimit (.object ms) = some v) : ms ≠ [] := by
  rintro rfl
  obtain ⟨fields, hkeyed, henvelope⟩ := envelope_limit_iff.mp h
  obtain rfl : [] = fields := (keyed?_eq_some_iff.mp hkeyed).2
  cases henvelope.taskId

/-- The text of an envelope is that of an object, and each text of an object with the same members
in any order, and with foreign members anywhere among them, is that of the same envelope. -/
theorem read?_reordered {bytes : List UInt8} {v : Envelope}
    (h : Decoder.read? envelope bytes = some v) :
    ∃ ms, Tree.ofBytes? bytes = some (.object ms) ∧ SpellsObject bytes ms ∧
      ∀ added ms' bytes', (∀ m ∈ added, IsForeignMember m) → ms'.Perm (ms ++ added) →
        SpellsObject bytes' ms' → Decoder.read? envelope bytes' = some v := by
  obtain ⟨tree, htree, henvelope⟩ := Option.bind_eq_some_iff.mp h
  obtain ⟨ms, rfl⟩ : ∃ ms, tree = .object ms := by
    cases tree with
    | object ms => exact ⟨ms, rfl⟩
    | _ => simp [depthLimit, envelope] at henvelope
  have hne := ne_nil_of_envelope henvelope
  refine ⟨ms, htree, (ofBytes?_object_iff hne).mp htree, ?_⟩
  intro added ms' bytes' hadded hperm hspells
  have hread := envelope_perm henvelope hperm hadded
  rw [Decoder.read?, (ofBytes?_object_iff (ne_nil_of_envelope hread)).mpr hspells]
  exact hread

/-! ### The other way round -/

/-- The members of the event in `eventText`, last first, after one more foreign member with a key
that is written as a code unit. -/
def reversedText : List UInt8 :=
  Utf8.encode ("\x7b \"\\u0078\" : \"\" ,\"x\":[null],\"type\":\"USER_MESSAGE\",\"task_id\":\"t1\"," ++
    "\"actor\":\"u\",\"ts\":\"2026-03-01T10:00:03Z\",\"task_seq\":1,\"event_id\":\"e1\" \x7d").toList

def spelledMember : TextLiteral × Tree := ([.unit 0x78], .text [])

set_option maxRecDepth 2000 in
theorem ofBytes?_reversedText :
    Tree.ofBytes? reversedText =
      some (.object (eventMembers (.array [.null]) ++ [spelledMember]).reverse) := by
  rfl

theorem reversed_read :
    ∃ v, Decoder.read? envelope (eventText "\"USER_MESSAGE\"" "[null]") = some v ∧
      Decoder.read? envelope reversedText = some v := by
  have hsome : (Decoder.read? envelope (eventText "\"USER_MESSAGE\"" "[null]")).isSome = true := by
    decide +kernel
  obtain ⟨v, hv⟩ := Option.isSome_iff_exists.mp hsome
  obtain ⟨ms, htree, -, hall⟩ := read?_reordered hv
  obtain rfl : eventMembers (.array [.null]) = ms := by
    simpa using ofBytes?_nested.symm.trans htree
  have hadded : ∀ m ∈ [spelledMember], IsForeignMember m := by
    intro m hm
    obtain rfl := List.mem_singleton.mp hm
    exact ⟨⟨"x", by decide +kernel, by simp [IsForeign, eventFields]⟩, by decide, .text rfl⟩
  have hspells := (ofBytes?_object_iff (by simp)).mp ofBytes?_reversedText
  exact ⟨v, hv, hall _ _ _ hadded (List.reverse_perm _) hspells⟩

/-! ### A member without a value -/

set_option maxRecDepth 2000 in
theorem ofBytes?_hugeAdded :
    Tree.ofBytes? (eventText "\"USER_MESSAGE\"" "[null],\"x\":1e999") =
      some (.object (eventMembers (.array [.null]) ++ [(literal "x", hugeNumber)])) := by
  rfl

/-- The values of foreign members are read, though nothing asks for them: one with a number that is
too large makes the text of an envelope unreadable. -/
theorem huge_member_unread :
    (Decoder.read? envelope (eventText "\"USER_MESSAGE\"" "[null]")).isSome = true ∧
      Tree.ofBytes? (eventText "\"USER_MESSAGE\"" "[null]") =
        some (.object (eventMembers (.array [.null]))) ∧
      SpellsObject (eventText "\"USER_MESSAGE\"" "[null],\"x\":1e999")
        (eventMembers (.array [.null]) ++ [(literal "x", hugeNumber)]) ∧
      IsForeign "x" ∧ hugeNumber.depth < depthLimit ∧
      Decoder.read? envelope (eventText "\"USER_MESSAGE\"" "[null],\"x\":1e999") = none := by
  have hspells := (ofBytes?_object_iff (by simp)).mp ofBytes?_hugeAdded
  have hforeign : IsForeign "x" := by simp [IsForeign, eventFields]
  rw [← Option.isNone_iff_eq_none]
  exact ⟨by decide +kernel, ofBytes?_nested, hspells, hforeign, by decide, by decide +kernel⟩

end TaskMonitor.Decode
