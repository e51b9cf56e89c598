import TaskMonitor.Json.Decoder
import TaskMonitor.Proofs.Json.Reading

/-! # Typed data that is read again -/

namespace TaskMonitor.Json

/-- The value a datum is written as is exact, and the datum is read from it. -/
structure Returns {α : Type} (decode : Decoder α) (write : α → Value) (room : Nat) (a : α) :
    Prop where
  exact : (write a).IsExact
  again : decode room (write a).tree = some a

/-- A datum of this kind that was read is read again, if it is exact and there is room for what may
have been missing. -/
def Rereads {α : Type} (decode : Decoder α) (write : α → Value) (exact : α → Prop)
    (least : Nat) : Prop :=
  ∀ room tree a, least ≤ room → decode room tree = some a → exact a → Returns decode write room a

def Members.IsExact (ms : Members) : Prop := ∀ m ∈ ms, m.2.IsExact

instance (ms : Members) : Decidable ms.IsExact := inferInstanceAs (Decidable (∀ m ∈ ms, _))

theorem Rereads.mono {α : Type} {decode : Decoder α} {write : α → Value} {exact exact' : α → Prop}
    {least least' : Nat} (h : Rereads decode write exact least) (hleast : least ≤ least')
    (hexact : ∀ a, exact' a → exact a) : Rereads decode write exact' least' :=
  fun room tree a hroom hread ha => h room tree a (Nat.le_trans hleast hroom) hread (hexact a ha)

/-- What was read from a text is read again from the text it is written as. -/
theorem Rereads.readText? {α : Type} {decode : Decoder α} {write : α → Value} {exact : α → Prop}
    {least : Nat} (h : Rereads decode write exact least) (hleast : least ≤ depthLimit)
    {bytes : List UInt8} {a : α} (hread : Decoder.read? decode bytes = some a) (ha : exact a) :
    Decoder.readText? decode (write a).render = some a := by
  obtain ⟨tree, -, htree⟩ := Option.bind_eq_some_iff.mp hread
  obtain ⟨hexact, hagain⟩ := h depthLimit tree a hleast htree ha
  rw [Decoder.readText?, Decoder.read?, ofBytes?_render hexact]
  exact hagain

namespace Decode

variable {α β : Type} {room : Nat}

/-! ## Simple types -/

theorem returns_text (s : String) : Returns text .text room s :=
  ⟨.text s, text?_literal s⟩

theorem returns_bool (b : Bool) : Returns bool .bool room b := ⟨.bool b, rfl⟩

theorem natural_lt {tree : Tree} {n : Nat} (h : natural room tree = some n) : n < wordLimit := by
  unfold natural at h
  split at h
  next numeral =>
    obtain ⟨i, hi, hn⟩ := Option.bind_eq_some_iff.mp h
    have hword := isWord_of_integer? hi
    split at hn
    · have hself : i.toNat = n := Option.some.inj hn
      have hhigh := hword.2
      omega
    · cases hn
  next => cases h

theorem returns_natural {n : Nat} (h : n < wordLimit) :
    Returns natural (fun n => .integer n) room n := by
  have hword : IsWord n := ⟨by omega, by omega⟩
  refine ⟨.integer n, ?_⟩
  simp [natural, integer?_integerNumeral hword]

theorem rereads_natural : Rereads natural (fun n => .integer n) (fun _ => True) 0 :=
  fun _ _ _ _ h _ => returns_natural (natural_lt h)

/-- A name is read, alone or not, only where it is known. -/
theorem returns_name {isNothing : Tree → Bool} {find : String → Option α} {nameOf : α → String}
    {a : α} (h : find (nameOf a) = some a) :
    Returns (name isNothing find) (fun a => .text (nameOf a)) room a := by
  refine ⟨.text _, ?_⟩
  simp [name, text?_literal, h]

theorem returns_map {decode : Decoder α} {write : α → Value} {a : α}
    (h : Returns decode write room a) (make : α → β) {write' : β → Value}
    (hwrite : write' (make a) = write a) :
    Returns (fun room tree => (decode room tree).map make) write' room (make a) :=
  ⟨hwrite ▸ h.exact, by simp [hwrite, h.again]⟩

/-! ## Containers -/

theorem rereads_list {decode : Decoder α} {write : α → Value} {exact : α → Prop} {least : Nat}
    (h : Rereads decode write exact least) :
    Rereads (list decode) (fun as => .array (as.map write)) (∀ a ∈ ·, exact a) (least + 1) := by
  intro room tree as hroom hread hexact
  cases room with
  | zero => omega
  | succ room =>
      cases tree with
      | array trees =>
          have hitems : trees.mapM (decode room) = some as := hread
          have hreturns : ∀ a ∈ as, Returns decode write room a := fun a ha =>
            have ⟨tree, htree⟩ := exists_of_mapM hitems a ha
            h room tree a (by omega) htree (hexact a ha)
          refine ⟨.array ?_, ?_⟩
          · intro v hv
            obtain ⟨a, ha, rfl⟩ := List.mem_map.mp hv
            exact (hreturns a ha).exact
          · rw [Value.tree_array, List.map_map]
            exact mapM_written fun a ha => (hreturns a ha).again
      | _ => simp [list] at hread

theorem rereads_members : Rereads members .object Members.IsExact 0 := by
  intro room tree ms hroom hread hexact
  cases room with
  | zero => cases tree <;> simp [members] at hread
  | succ room =>
      cases tree with
      | object trees =>
          have hmembers : Value.ofMembers? room [] trees = some ms := hread
          refine ⟨.object hexact, ?_⟩
          rw [Value.tree_object]
          exact Value.ofMembers?_reread hmembers fun m hm tree htree =>
            Value.ofTree?_again (hexact m hm) htree
      | _ => simp [members] at hread

/-! ## Data as values -/

theorem text_eq_some_iff {tree : Tree} {s : String} :
    text room tree = some s ↔ ∃ literal, tree = .text literal ∧ literal.text? = some s := by
  cases tree <;> simp [text]

theorem bool_eq_some_iff {tree : Tree} {b : Bool} : bool room tree = some b ↔ tree = .bool b := by
  cases tree <;> simp [bool]

theorem isSome_of_text {tree : Tree} {s : String} (h : text room tree = some s) :
    (Value.ofTree? room tree).isSome = true := by
  obtain ⟨literal, rfl, htext⟩ := text_eq_some_iff.mp h
  simp [Value.ofTree?, htext]

theorem isSome_of_name {find : String → Option α} {tree : Tree} {a : α}
    (h : name isNull find room tree = some a) : (Value.ofTree? room tree).isSome = true := by
  unfold name at h
  split at h
  next literal =>
    obtain ⟨s, htext, -⟩ := Option.bind_eq_some_iff.mp h
    simp [Value.ofTree?, htext]
  next room key value =>
    split at h
    next hnull =>
      obtain ⟨s, htext, -⟩ := Option.bind_eq_some_iff.mp h
      unfold isNull at hnull
      split at hnull
      · simp [Value.ofTree?, Value.ofMembers?, htext]
      · cases hnull
    next => cases h
  · cases h

theorem isSome_of_natural {tree : Tree} {n : Nat} (h : natural room tree = some n) :
    (Value.ofTree? room tree).isSome = true := by
  cases tree with
  | number numeral =>
      obtain ⟨i, hi, -⟩ := Option.bind_eq_some_iff.mp h
      simp [Value.ofTree?, Value.ofNumeral?, hi]
  | _ => simp [natural] at h

theorem isSome_of_members {tree : Tree} {ms : Members} (h : members room tree = some ms) :
    (Value.ofTree? room tree).isSome = true := by
  cases tree with
  | object trees =>
      cases room with
      | zero => simp [members] at h
      | succ room =>
          have hread : Value.ofMembers? room [] trees = some ms := h
          simp [Value.ofTree?, hread]
  | _ => simp [members] at h

/-! ## Records -/

end Decode

def Value.members : Value → Members
  | .object ms => ms
  | _ => []

namespace Decode

def written (room : Nat) (v : Value) : Record := ⟨room, v.members.map fun m => (m.1, m.2.tree)⟩

theorem keyed?_written (ms : Members) :
    keyed? (ms.map fun m => (literal m.1, m.2.tree)) =
      some (ms.map fun m => (m.1, m.2.tree)) := by
  induction ms with
  | nil => rfl
  | cons m ms ih =>
      rw [keyed?] at ih ⊢
      simp [List.mapM_cons, text?_literal, ih]

theorem fieldsOf?_written {names : List String} {ms : Members} (hnames : ms.map (·.1) = names)
    (hdistinct : names.Nodup) :
    fieldsOf? names (ms.map fun m => (m.1, m.2.tree)) = some (ms.map fun m => (m.1, m.2.tree)) := by
  have hkeys : (ms.map fun m => (m.1, m.2.tree)).map Prod.fst = names := by
    rw [List.map_map, ← hnames]
    rfl
  have hall : (ms.map fun m => (m.1, m.2.tree)).filter (names.contains ·.1) =
      ms.map fun m => (m.1, m.2.tree) := by
    rw [List.filter_eq_self]
    intro m hm
    simpa using hkeys ▸ List.mem_map_of_mem (f := Prod.fst) hm
  simp only [fieldsOf?, hall, hkeys, hdistinct, if_true]

theorem room_of_record {names : List String} {tree : Tree} {r : Record}
    (h : record names room tree = some r) : room = r.room + 1 := by
  unfold record at h
  split at h
  · obtain ⟨fields, -, rfl⟩ := Option.map_eq_some_iff.mp h
    rfl
  · split at h
    · obtain rfl := Option.some.inj h
      rfl
    · cases h
  · cases h

variable {names : List String} {fill : Record → Option α} {write : α → Value}

/-- A datum that is written as a record with all of its fields is read as one. -/
theorem returns_record {a : α} (hobject : write a = .object (write a).members)
    (hnames : (write a).members.map (·.1) = names) (hdistinct : names.Nodup)
    (hexact : ∀ m ∈ (write a).members, m.2.IsExact)
    (hfill : fill (written room (write a)) = some a) :
    Returns (fun room tree => record names room tree >>= fill) write (room + 1) a := by
  refine ⟨hobject ▸ .object hexact, ?_⟩
  have hrecord : record names (room + 1) (write a).tree = some (written room (write a)) := by
    rw [hobject, Value.tree_object, record, keyed?_written, Option.bind_some,
      fieldsOf?_written hnames hdistinct]
    rfl
  rw [hrecord]
  exact hfill

/-- Data that are read field by field are read again, if this holds of their fields. -/
theorem rereads_record {exact : α → Prop} {least : Nat}
    (hobject : ∀ a, write a = .object (write a).members)
    (hnames : ∀ a, (write a).members.map (·.1) = names) (hdistinct : names.Nodup)
    (h : ∀ room fields a, least ≤ room → fill ⟨room, fields⟩ = some a → exact a →
      (∀ m ∈ (write a).members, m.2.IsExact) ∧ fill (written room (write a)) = some a) :
    Rereads (fun room tree => record names room tree >>= fill) write exact (least + 1) := by
  intro room tree a hroom hread ha
  obtain ⟨⟨depth, fields⟩, hr, hfill⟩ := Option.bind_eq_some_iff.mp hread
  obtain rfl : room = depth + 1 := room_of_record hr
  obtain ⟨hexact, hagain⟩ := h depth fields a (Nat.le_of_succ_le_succ hroom) hfill ha
  exact returns_record (hobject a) (hnames a) hdistinct hexact hagain

end Decode

/-! ## Fields -/

section

open Decode

variable {α : Type} {decode : Decoder α} {write : α → Value} {exact : α → Prop} {least room : Nat}
  {r : Record} {name : String} {a missing : α}

theorem Rereads.field (h : Rereads decode write exact least) (hroom : least ≤ r.room)
    (hread : r.field name decode = some a) (hexact : exact a) : Returns decode write r.room a := by
  obtain ⟨tree, -, htree⟩ := Option.bind_eq_some_iff.mp hread
  exact h _ _ _ hroom htree hexact

theorem Rereads.fieldOr (h : Rereads decode write exact least) (hroom : least ≤ r.room)
    (hmissing : Returns decode write r.room missing)
    (hread : r.fieldOr name missing decode = some a) (hexact : exact a) :
    Returns decode write r.room a := by
  unfold Record.fieldOr at hread
  split at hread
  · exact h _ _ _ hroom hread hexact
  · exact Option.some.inj hread ▸ hmissing

theorem lookup_written (v : Value) (name : String) :
    (written room v).fields.lookup name = (v.members.lookup name).map Value.tree := by
  rw [written]
  generalize v.members = ms
  induction ms with
  | nil => rfl
  | cons m ms ih =>
      obtain ⟨key, value⟩ := m
      cases hkey : name == key with
      | true => simp [List.lookup_cons, hkey]
      | false => simp [List.lookup_cons, hkey, ih]

theorem Returns.field (h : Returns decode write room a) (v : Value) (name : String)
    (hwritten : v.members.lookup name = some (write a)) :
    (written room v).field name decode = some a := by
  rw [Record.field, lookup_written, hwritten]
  exact h.again

theorem Returns.fieldOr (h : Returns decode write room a) (v : Value) (name : String)
    (hwritten : v.members.lookup name = some (write a)) (missing : α) :
    (written room v).fieldOr name missing decode = some a := by
  rw [Record.fieldOr, lookup_written, hwritten]
  exact h.again

end

end TaskMonitor.Json
