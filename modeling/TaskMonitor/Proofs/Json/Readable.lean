import TaskMonitor.Json.Value

/-! # Documents that have a value

A document has a value if its containers are not nested too deep, its texts consist of characters
and its numbers have a value. -/

namespace TaskMonitor.Json

namespace Tree

/-! ## Depth -/

mutual

def depth : Tree → Nat
  | .array items => depthOfItems items + 1
  | .object members => depthOfMembers members + 1
  | _ => 0

def depthOfItems : List Tree → Nat
  | [] => 0
  | item :: rest => max item.depth (depthOfItems rest)

def depthOfMembers : List (TextLiteral × Tree) → Nat
  | [] => 0
  | (_, item) :: rest => max item.depth (depthOfMembers rest)

end

theorem depthOfItems_le_iff {items : List Tree} {room : Nat} :
    depthOfItems items ≤ room ↔ ∀ item ∈ items, item.depth ≤ room := by
  induction items with
  | nil => simp [depthOfItems]
  | cons item items ih => rw [depthOfItems, Nat.max_le, ih, List.forall_mem_cons]

theorem depthOfMembers_le_iff {members : List (TextLiteral × Tree)} {room : Nat} :
    depthOfMembers members ≤ room ↔ ∀ m ∈ members, m.2.depth ≤ room := by
  induction members with
  | nil => simp [depthOfMembers]
  | cons m members ih => rw [depthOfMembers, Nat.max_le, ih, List.forall_mem_cons]

/-! ## Texts and numbers -/

/-- Every text consists of characters, and every number has a value. -/
inductive IsReadable : Tree → Prop where
  | null : IsReadable .null
  | bool (b : Bool) : IsReadable (.bool b)
  | number {n : Numeral} (h : (Value.ofNumeral? n).isSome = true) : IsReadable (.number n)
  | text {literal : TextLiteral} (h : literal.text?.isSome = true) : IsReadable (.text literal)
  | array {items : List Tree} (h : ∀ item ∈ items, item.IsReadable) : IsReadable (.array items)
  | object {members : List (TextLiteral × Tree)} (hkeys : ∀ m ∈ members, m.1.text?.isSome = true)
      (h : ∀ m ∈ members, m.2.IsReadable) : IsReadable (.object members)

end Tree

/-! ## Values -/

namespace Value

theorem isSome_ofItems? {room : Nat} {items : List Tree} :
    (ofItems? room items).isSome = true ↔ ∀ item ∈ items, (ofTree? room item).isSome = true := by
  induction items with
  | nil => simp [ofItems?]
  | cons item items ih =>
      cases hitem : ofTree? room item <;> cases hrest : ofItems? room items <;>
        simp_all [ofItems?]

theorem isSome_ofMembers? {room : Nat} {read : Members} {members : List (TextLiteral × Tree)} :
    (ofMembers? room read members).isSome = true ↔
      (∀ m ∈ members, m.1.text?.isSome = true) ∧
        ∀ m ∈ members, (ofTree? room m.2).isSome = true := by
  induction members generalizing read with
  | nil => simp [ofMembers?]
  | cons m members ih =>
      obtain ⟨key, item⟩ := m
      cases hkey : key.text? with
      | none => simp [ofMembers?, hkey]
      | some k => cases hitem : ofTree? room item <;> simp_all [ofMembers?]

/-- A document has a value exactly if it is not nested too deep and can be read throughout. -/
theorem isSome_ofTree?_iff : {tree : Tree} → {room : Nat} →
    ((ofTree? room tree).isSome = true ↔ tree.depth ≤ room ∧ tree.IsReadable)
  | .null, room => by simp [ofTree?, Tree.depth, Tree.IsReadable.null]
  | .bool b, room => by simp [ofTree?, Tree.depth, Tree.IsReadable.bool]
  | .number n, room => by
      have hreadable : (Tree.number n).IsReadable ↔ (ofNumeral? n).isSome = true :=
        ⟨fun h => by cases h; assumption, .number⟩
      simp [ofTree?, Tree.depth, hreadable]
  | .text literal, room => by
      have hreadable : (Tree.text literal).IsReadable ↔ literal.text?.isSome = true :=
        ⟨fun h => by cases h; assumption, .text⟩
      simp [ofTree?, Tree.depth, hreadable]
  | .array items, 0 => by simp [ofTree?, Tree.depth]
  | .array items, room + 1 => by
      have hreadable : (Tree.array items).IsReadable ↔ ∀ item ∈ items, item.IsReadable :=
        ⟨fun h => by cases h; assumption, .array⟩
      have hitems : (∀ item ∈ items, (ofTree? room item).isSome = true) ↔
          ∀ item ∈ items, item.depth ≤ room ∧ item.IsReadable :=
        forall₂_congr fun item _ => isSome_ofTree?_iff
      rw [hreadable, Tree.depth, Nat.succ_le_succ_iff, Tree.depthOfItems_le_iff]
      simp [ofTree?, isSome_ofItems?, hitems, forall_and]
  | .object members, 0 => by simp [ofTree?, Tree.depth]
  | .object members, room + 1 => by
      have hreadable : (Tree.object members).IsReadable ↔
          (∀ m ∈ members, m.1.text?.isSome = true) ∧ ∀ m ∈ members, m.2.IsReadable :=
        ⟨fun h => by cases h; exact ⟨by assumption, by assumption⟩, fun h => .object h.1 h.2⟩
      have hmembers : (∀ m ∈ members, (ofTree? room m.2).isSome = true) ↔
          ∀ m ∈ members, m.2.depth ≤ room ∧ m.2.IsReadable :=
        forall₂_congr fun m _ => isSome_ofTree?_iff
      rw [hreadable, Tree.depth, Nat.succ_le_succ_iff, Tree.depthOfMembers_le_iff]
      simp only [ofTree?, Nat.succ_ne_zero, if_false, Option.isSome_map, isSome_ofMembers?,
        Nat.add_one_sub_one, hmembers, forall_and]
      exact and_left_comm

end Value

end TaskMonitor.Json
