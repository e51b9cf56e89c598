import TaskMonitor.Proofs.Json.Rendering

/-! # Values that are read again

A value without real numbers that was read from a document is read from the document it is written
as, at the same depth. -/

namespace TaskMonitor.Json

/-! ## Lists -/

theorem mapM_written {α : Type} {read : Tree → Option α} {write : α → Tree} {values : List α}
    (h : ∀ value ∈ values, read (write value) = some value) :
    (values.map write).mapM read = some values := by
  induction values with
  | nil => rfl
  | cons value values ih =>
      simp [h value (.head _), ih fun v hv => h v (.tail _ hv)]

theorem exists_of_mapM {α : Type} {read : Tree → Option α} {trees : List Tree} {values : List α}
    (h : trees.mapM read = some values) : ∀ value ∈ values, ∃ tree, read tree = some value := by
  induction trees generalizing values with
  | nil =>
      obtain rfl : values = [] := by simpa [eq_comm] using h
      simp
  | cons tree trees ih =>
      rw [List.mapM_cons] at h
      obtain ⟨value, hvalue, rest, hrest, rfl⟩ : ∃ value, read tree = some value ∧
          ∃ rest, trees.mapM read = some rest ∧ value :: rest = values := by
        simpa [Option.bind_eq_some_iff] using h
      intro v hv
      rcases List.mem_cons.mp hv with rfl | hv
      · exact ⟨tree, hvalue⟩
      · exact ih hrest v hv

/-! ## Members -/

namespace Members

theorem mem_insert {ms : Members} {key : String} {value : Value} {m : String × Value}
    (h : m ∈ ms.insert key value) : m ∈ ms ∨ m = (key, value) := by
  unfold insert at h
  split at h
  · obtain ⟨m', hm', rfl⟩ := List.mem_map.mp h
    split
    · exact .inr rfl
    · exact .inl hm'
  · simpa using h

/-- A known key keeps its place, and a new one comes last. -/
theorem keys_insert (ms : Members) (key : String) (value : Value) :
    (ms.insert key value).map (·.1) =
      if key ∈ ms.map (·.1) then ms.map (·.1) else ms.map (·.1) ++ [key] := by
  have hknown : ms.any (·.1 = key) = true ↔ key ∈ ms.map (·.1) := by simp
  rw [insert]
  split
  next h =>
    rw [if_pos (hknown.mp h), List.map_map]
    refine List.map_congr_left fun m _ => ?_
    by_cases hm : m.1 = key <;> simp [hm]
  next h => rw [if_neg (mt hknown.mpr h), List.map_append, List.map_singleton]

theorem nodup_insert {ms : Members} (h : (ms.map (·.1)).Nodup) (key : String) (value : Value) :
    ((ms.insert key value).map (·.1)).Nodup := by
  rw [keys_insert]
  split
  · exact h
  next hnew =>
    rw [List.nodup_append]
    refine ⟨h, by simp, ?_⟩
    intro k hk k' hk' heq
    obtain rfl : k' = key := by simpa using hk'
    exact hnew (heq ▸ hk)

theorem insert_of_notMem {ms : Members} {key : String} (h : key ∉ ms.map (·.1)) (value : Value) :
    ms.insert key value = ms ++ [(key, value)] := by
  have hnew : ¬ ms.any (·.1 = key) = true := by
    rw [List.any_eq_true]
    rintro ⟨m, hm, hkey⟩
    exact h (List.mem_map.mpr ⟨m, hm, by simpa using hkey⟩)
  rw [insert, if_neg hnew]

end Members

namespace Value

/-- The keys that are read are those of the document, each where it stands first. -/
theorem keys_ofMembers? {room : Nat} {read ms : Members} {trees : List (TextLiteral × Tree)}
    (h : ofMembers? room read trees = some ms) :
    ms.map (·.1) = read.map (·.1) ++
      ((trees.filterMap fun m => m.1.text?).removeAll (read.map (·.1))).eraseDups := by
  induction trees generalizing read with
  | nil =>
      obtain rfl : read = ms := by simpa [ofMembers?] using h
      simp [List.removeAll]
  | cons tree trees ih =>
      obtain ⟨key, hkey, value, -, hrest⟩ : ∃ key, tree.1.text? = some key ∧
          ∃ value, ofTree? room tree.2 = some value ∧
            ofMembers? room (read.insert key value) trees = some ms := by
        simpa [ofMembers?, Option.bind_eq_some_iff] using h
      rw [ih hrest, Members.keys_insert, List.filterMap_cons]
      simp only [hkey]
      split
      next hknown => simp [List.removeAll, hknown]
      next hnew =>
        -- What is left of the later keys must not hold the new one again.
        have hlater (keys : List String) : keys.removeAll (read.map (·.1) ++ [key]) =
            (keys.removeAll (read.map (·.1))).filter (!· == key) := by
          rw [List.removeAll, List.removeAll, List.filter_filter]
          refine List.filter_congr fun k _ => ?_
          rw [Bool.eq_iff_iff]
          simp [or_comm]
        rw [hlater, List.append_assoc, List.singleton_append, ← List.eraseDups_cons]
        simp [List.removeAll, hnew]

/-- The keys that are read are different, and each value was read from a document. -/
theorem ofMembers?_spec {room : Nat} {read ms : Members} {trees : List (TextLiteral × Tree)}
    (h : ofMembers? room read trees = some ms) (hread : (read.map (·.1)).Nodup) :
    (ms.map (·.1)).Nodup ∧ ∀ m ∈ ms, m ∈ read ∨ ∃ tree, ofTree? room tree = some m.2 := by
  induction trees generalizing read with
  | nil =>
      obtain rfl : read = ms := by simpa [ofMembers?] using h
      exact ⟨hread, fun m hm => .inl hm⟩
  | cons tree trees ih =>
      obtain ⟨key, -, value, hvalue, hrest⟩ : ∃ key, tree.1.text? = some key ∧
          ∃ value, ofTree? room tree.2 = some value ∧
            ofMembers? room (read.insert key value) trees = some ms := by
        simpa [ofMembers?, Option.bind_eq_some_iff] using h
      obtain ⟨hkeys, hvalues⟩ := ih hrest (Members.nodup_insert hread key value)
      refine ⟨hkeys, fun m hm => ?_⟩
      rcases hvalues m hm with hm | hm
      · rcases Members.mem_insert hm with hm | rfl
        · exact .inl hm
        · exact .inr ⟨_, hvalue⟩
      · exact .inr hm

theorem ofMembers?_again {room : Nat} {read ms : Members} (hkeys : ((read ++ ms).map (·.1)).Nodup)
    (hvalues : ∀ m ∈ ms, ofTree? room m.2.tree = some m.2) :
    ofMembers? room read (ms.map fun m => (literal m.1, m.2.tree)) = some (read ++ ms) := by
  induction ms generalizing read with
  | nil => simp [ofMembers?]
  | cons m ms ih =>
      have hnew : m.1 ∉ read.map (·.1) := by
        intro hmem
        rw [List.map_append, List.nodup_append] at hkeys
        exact hkeys.2.2 _ hmem _ (by simp) rfl
      have hsplit : (read ++ [m]) ++ ms = read ++ m :: ms := by simp
      have hrest := ih (hsplit ▸ hkeys) fun m' hm' => hvalues m' (.tail _ hm')
      simp only [List.map_cons, ofMembers?, text?_literal, hvalues m (.head _),
        Option.bind_eq_bind, Option.bind_some, Members.insert_of_notMem hnew]
      simpa using hrest

/-! ## Values -/

theorem ofItems?_eq (room : Nat) (trees : List Tree) :
    ofItems? room trees = trees.mapM (ofTree? room) := by
  induction trees with
  | nil => rfl
  | cons tree trees ih =>
      rw [ofItems?, List.mapM_cons, ih]

theorem ofNumeral?_integerNumeral {i : Int} (h : IsWord i) :
    ofNumeral? (integerNumeral i) = some (.integer i) := by
  simp [ofNumeral?, integer?_integerNumeral h]

theorem ofNumeral?_eq_integer {n : Numeral} {i : Int} :
    ofNumeral? n = some (.integer i) ↔ n.integer? = some i := by
  unfold ofNumeral?
  cases n.integer? with
  | none => simp
  | some j => simp

theorem exists_of_array {room : Nat} {tree : Tree} {items : List Value}
    (h : ofTree? room tree = some (.array items)) :
    ∃ trees, tree = .array trees ∧ room ≠ 0 ∧ trees.mapM (ofTree? (room - 1)) = some items := by
  cases tree with
  | array trees => simpa [ofTree?, ofItems?_eq] using h
  | number n =>
      simp only [ofTree?, ofNumeral?] at h
      split at h <;> simp at h
  | _ => simp [ofTree?] at h

theorem exists_of_object {room : Nat} {tree : Tree} {members : Members}
    (h : ofTree? room tree = some (.object members)) :
    ∃ trees, tree = .object trees ∧ room ≠ 0 ∧
      ofMembers? (room - 1) [] trees = some members := by
  cases tree with
  | object trees => simpa [ofTree?] using h
  | number n =>
      simp only [ofTree?, ofNumeral?] at h
      split at h <;> simp at h
  | _ => simp [ofTree?] at h

theorem isWord_of_integer {room : Nat} {tree : Tree} {i : Int}
    (h : ofTree? room tree = some (.integer i)) : IsWord i := by
  cases tree with
  | number n => exact isWord_of_integer? (ofNumeral?_eq_integer.mp h)
  | _ => simp [ofTree?] at h

theorem ofMembers?_reread {room : Nat} {ms : Members} {trees : List (TextLiteral × Tree)}
    (h : ofMembers? room [] trees = some ms)
    (hagain : ∀ m ∈ ms, ∀ tree, ofTree? room tree = some m.2 →
      ofTree? room m.2.tree = some m.2) :
    ofMembers? room [] (ms.map fun m => (literal m.1, m.2.tree)) = some ms := by
  obtain ⟨hkeys, hvalues⟩ := ofMembers?_spec h List.nodup_nil
  refine ofMembers?_again (List.nil_append ms ▸ hkeys) fun m hm => ?_
  obtain ⟨tree, htree⟩ := (hvalues m hm).resolve_left List.not_mem_nil
  exact hagain m hm tree htree

theorem ofTree?_again {v : Value} (hexact : v.IsExact) {room : Nat} {tree : Tree}
    (h : ofTree? room tree = some v) : ofTree? room v.tree = some v := by
  induction hexact generalizing room tree with
  | null => rfl
  | bool b => rfl
  | text s => simp [ofTree?, text?_literal]
  | integer i => simp [ofTree?, ofNumeral?_integerNumeral (isWord_of_integer h)]
  | array _ ih =>
      obtain ⟨trees, rfl, hroom, hitems⟩ := exists_of_array h
      have hagain := mapM_written fun v hv =>
        have ⟨_, hread⟩ := exists_of_mapM hitems v hv
        ih v hv hread
      simp [ofTree?, ofItems?_eq, hroom, hagain]
  | object _ ih =>
      obtain ⟨trees, rfl, hroom, hmembers⟩ := exists_of_object h
      have hagain := ofMembers?_reread hmembers fun m hm tree htree => ih m hm htree
      simp [ofTree?, hroom, hagain]

end Value

end TaskMonitor.Json
