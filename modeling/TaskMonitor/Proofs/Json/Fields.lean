import TaskMonitor.Json.Decoder
import TaskMonitor.Proofs.Json.Literal

/-! # Fields of objects

The fields of a record are looked up by name, each of them stands in the object once at most, and
the order of the members does not matter. -/

namespace TaskMonitor.Json.Decode

variable {names : List String} {fields fields' : List (String × Tree)}
  {ms ms' : List (TextLiteral × Tree)} {name : String} {value : Tree}

/-! ## Keys -/

theorem mapM_eq_some_iff {α β : Type} {f : α → Option β} {xs : List α} {ys : List β} :
    xs.mapM f = some ys ↔ (∀ x ∈ xs, (f x).isSome = true) ∧ xs.filterMap f = ys := by
  induction xs generalizing ys with
  | nil => simp
  | cons x xs ih =>
      rw [List.mapM_cons]
      cases hx : f x with
      | none => simp [hx]
      | some y =>
          simp only [Option.bind_eq_bind, Option.bind_some, Option.bind_eq_some_iff, ih,
            List.filterMap_cons, hx, List.forall_mem_cons]
          constructor
          · rintro ⟨zs, ⟨hall, hzs⟩, h⟩
            exact ⟨⟨rfl, hall⟩, hzs ▸ Option.some.inj h⟩
          · rintro ⟨⟨-, hall⟩, h⟩
            exact ⟨_, ⟨hall, rfl⟩, congrArg some h⟩

def named? (m : TextLiteral × Tree) : Option (String × Tree) := m.1.text?.map (·, m.2)

theorem filterMap_named? (fields : List (String × Tree)) :
    (fields.map fun m => (literal m.1, m.2)).filterMap named? = fields := by
  simp [List.filterMap_map, named?, Function.comp_def, text?_literal]

theorem keyed?_eq_some_iff : keyed? ms = some fields ↔
    (∀ m ∈ ms, m.1.text?.isSome = true) ∧ ms.filterMap named? = fields := by
  have hsome (m : TextLiteral × Tree) : (named? m).isSome = m.1.text?.isSome :=
    Option.isSome_map
  have hkeyed : keyed? ms = ms.mapM named? := rfl
  simp only [hkeyed, mapM_eq_some_iff, hsome]

/-! ## Names -/

def valuesOf (name : String) (fields : List (String × Tree)) : List Tree :=
  (fields.filter (·.1 = name)).map Prod.snd

/-- No field with one of the names is repeated. -/
def Once (names : List String) (fields : List (String × Tree)) : Prop :=
  ∀ name ∈ names, (valuesOf name fields).length ≤ 1

theorem lookup_eq_head? : fields.lookup name = (valuesOf name fields).head? := by
  induction fields with
  | nil => rfl
  | cons m fields ih =>
      obtain ⟨key, value⟩ := m
      by_cases hkey : key = name
      · subst hkey
        simp [valuesOf]
      · have hne : (name == key) = false := beq_false_of_ne (Ne.symm hkey)
        rw [List.lookup_cons, hne, ih]
        simp [valuesOf, hkey]

theorem mem_valuesOf {m : String × Tree} (h : m ∈ fields) : m.2 ∈ valuesOf m.1 fields :=
  List.mem_map_of_mem (List.mem_filter.mpr ⟨h, by simp⟩)

theorem lookup_eq_none_iff : fields.lookup name = none ↔ valuesOf name fields = [] := by
  rw [lookup_eq_head?, List.head?_eq_none_iff]

theorem Once.lookup_eq_some_iff (h : Once names fields) (hname : name ∈ names) :
    fields.lookup name = some value ↔ valuesOf name fields = [value] := by
  have hlength := h name hname
  rw [lookup_eq_head?]
  match hvalues : valuesOf name fields with
  | [] => simp
  | [first] => simp
  | first :: second :: rest => simp [hvalues] at hlength

theorem Once.lookup_of_mem (h : Once names fields) {m : String × Tree} (hm : m ∈ fields)
    (hname : m.1 ∈ names) : fields.lookup m.1 = some m.2 := by
  have hmem := mem_valuesOf hm
  cases hfound : fields.lookup m.1 with
  | none => simp [lookup_eq_none_iff.mp hfound] at hmem
  | some value =>
      rw [(h.lookup_eq_some_iff hname).mp hfound, List.mem_singleton] at hmem
      rw [hmem]

theorem valuesOf_filter {p : String → Bool} (h : p name = true) :
    valuesOf name (fields.filter (p ·.1)) = valuesOf name fields := by
  rw [valuesOf, valuesOf, List.filter_filter]
  congr 1
  refine List.filter_congr fun m _ => ?_
  by_cases hkey : m.1 = name
  · simp [hkey, h]
  · simp [hkey]

theorem lookup_filter {p : String → Bool} (h : p name = true) :
    (fields.filter (p ·.1)).lookup name = fields.lookup name := by
  rw [lookup_eq_head?, lookup_eq_head?, valuesOf_filter h]

theorem read_of_field {α : Type} {room : Nat} {decode : Decoder α} {a : α}
    (h : Record.field ⟨room, fields⟩ name decode = some a)
    (hfound : fields.lookup name = some value) : decode room value = some a := by
  simpa only [Record.field, hfound, Option.bind_some] using h

theorem read_of_fieldOr {α : Type} {room : Nat} {decode : Decoder α} {missing a : α}
    (h : Record.fieldOr ⟨room, fields⟩ name missing decode = some a)
    (hfound : fields.lookup name = some value) : decode room value = some a := by
  simpa only [Record.fieldOr, hfound] using h

theorem field_congr {α : Type} {room : Nat} {decode : Decoder α}
    (h : fields'.lookup name = fields.lookup name) :
    Record.field ⟨room, fields'⟩ name decode = Record.field ⟨room, fields⟩ name decode := by
  simp only [Record.field, h]

theorem fieldOr_congr {α : Type} {room : Nat} {decode : Decoder α} {missing : α}
    (h : fields'.lookup name = fields.lookup name) :
    Record.fieldOr ⟨room, fields'⟩ name missing decode =
      Record.fieldOr ⟨room, fields⟩ name missing decode := by
  simp only [Record.fieldOr, h]

theorem once_filter {p : String → Bool} (h : ∀ name ∈ names, p name = true) :
    Once names (fields.filter (p ·.1)) ↔ Once names fields :=
  forall₂_congr fun name hname => by rw [valuesOf_filter (h name hname)]

theorem nodup_iff_once :
    ((fields.filter (names.contains ·.1)).map Prod.fst).Nodup ↔ Once names fields := by
  have hcount : ∀ name, ((fields.filter (names.contains ·.1)).map Prod.fst).count name =
      if name ∈ names then (valuesOf name fields).length else 0 := by
    intro name
    split
    next hname =>
      have hkept : names.contains name = true := by simpa using hname
      rw [← valuesOf_filter hkept, valuesOf, List.count, List.countP_map, List.length_map,
        List.countP_eq_length_filter]
      rfl
    next hname =>
      refine List.count_eq_zero.mpr fun hmem => hname ?_
      obtain ⟨m, hm, rfl⟩ := List.mem_map.mp hmem
      simpa using (List.mem_filter.mp hm).2
  rw [List.nodup_iff_count, Once]
  refine forall_congr' fun name => ?_
  rw [hcount]
  split <;> simp [*]

theorem once_of_nodup (h : (fields.map Prod.fst).Nodup) : Once names fields :=
  nodup_iff_once.mp (h.sublist (List.filter_sublist.map Prod.fst))

theorem fieldsOf?_eq_some_iff : fieldsOf? names fields = some fields' ↔
    Once names fields ∧ fields.filter (names.contains ·.1) = fields' := by
  simp only [fieldsOf?, nodup_iff_once, Option.ite_none_right_eq_some, Option.some.injEq]

/-! ## Order -/

/-- A field that is not repeated is the same in any order, and among more fields of other names. -/
theorem Once.valuesOf_eq (h : Once names fields) {added : List (String × Tree)}
    (hperm : fields'.Perm (fields ++ added)) (hadded : ∀ m ∈ added, m.1 ∉ names)
    (hname : name ∈ names) : valuesOf name fields' = valuesOf name fields := by
  have hnone : added.filter (·.1 = name) = [] := by
    refine List.filter_eq_nil_iff.mpr fun m hm hkey => hadded m hm ?_
    rwa [of_decide_eq_true hkey]
  have hvalues : (valuesOf name fields').Perm (valuesOf name fields) := by
    have hfilter := (hperm.filter (·.1 = name)).map Prod.snd
    rwa [List.filter_append, hnone, List.append_nil] at hfilter
  have hlength := h name hname
  match hfound : valuesOf name fields with
  | [] => exact List.perm_nil.mp (hfound ▸ hvalues)
  | [value] => exact List.perm_singleton.mp (hfound ▸ hvalues)
  | first :: second :: rest => simp [hfound] at hlength

theorem Once.perm (h : Once names fields) {added : List (String × Tree)}
    (hperm : fields'.Perm (fields ++ added)) (hadded : ∀ m ∈ added, m.1 ∉ names) :
    Once names fields' := fun name hname => by
  rw [h.valuesOf_eq hperm hadded hname]
  exact h name hname

theorem Once.lookup_eq (h : Once names fields) {added : List (String × Tree)}
    (hperm : fields'.Perm (fields ++ added)) (hadded : ∀ m ∈ added, m.1 ∉ names)
    (hname : name ∈ names) : fields'.lookup name = fields.lookup name := by
  rw [lookup_eq_head?, lookup_eq_head?, h.valuesOf_eq hperm hadded hname]

end TaskMonitor.Json.Decode
