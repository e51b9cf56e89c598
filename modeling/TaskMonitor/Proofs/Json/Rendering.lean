import TaskMonitor.Proofs.Json.Literal
import TaskMonitor.Proofs.Json.Numeral

/-! # Reading the document that was written

The text of a value holds tokens, and these are read as the document that the value is written
as. -/

namespace TaskMonitor.Json

/-! ## Values as documents -/

inductive Value.IsExact : Value → Prop where
  | null : IsExact .null
  | bool (b : Bool) : IsExact (.bool b)
  | integer (i : Int) : IsExact (.integer i)
  | text (s : String) : IsExact (.text s)
  | array {items : List Value} (h : ∀ v ∈ items, v.IsExact) : IsExact (.array items)
  | object {members : Members} (h : ∀ m ∈ members, m.2.IsExact) : IsExact (.object members)

namespace Value

mutual

def isExact : Value → Bool
  | .real _ _ => false
  | .array items => areExact items
  | .object members => haveExact members
  | _ => true

def areExact : List Value → Bool
  | [] => true
  | item :: rest => item.isExact && areExact rest

def haveExact : Members → Bool
  | [] => true
  | (_, item) :: rest => item.isExact && haveExact rest

end

theorem areExact_iff (items : List Value) :
    areExact items = true ↔ ∀ v ∈ items, v.isExact = true := by
  induction items with
  | nil => simp [areExact]
  | cons item items ih => simp [areExact, ih]

theorem haveExact_iff (members : Members) :
    haveExact members = true ↔ ∀ m ∈ members, m.2.isExact = true := by
  induction members with
  | nil => simp [haveExact]
  | cons m members ih => simp [haveExact, ih]

theorem isExact_of_isExact {v : Value} (h : v.IsExact) : v.isExact = true := by
  induction h with
  | null => rfl
  | bool b => rfl
  | integer i => rfl
  | text s => rfl
  | array _ ih => exact (areExact_iff _).mpr ih
  | object _ ih => exact (haveExact_iff _).mpr ih

theorem IsExact.of_isExact : {v : Value} → v.isExact = true → v.IsExact
  | .null, _ => .null
  | .bool b, _ => .bool b
  | .integer i, _ => .integer i
  | .text s, _ => .text s
  | .array items, h => .array fun v hv => of_isExact ((areExact_iff items).mp h v hv)
  | .object members, h => .object fun m hm => of_isExact ((haveExact_iff members).mp h m hm)
decreasing_by
  · have hsize := List.sizeOf_lt_of_mem hv
    simp only [array.sizeOf_spec]
    omega
  · have hsize := List.sizeOf_lt_of_mem hm
    obtain ⟨key, item⟩ := m
    simp only [object.sizeOf_spec, Prod.mk.sizeOf_spec] at hsize ⊢
    omega

instance (v : Value) : Decidable v.IsExact :=
  decidable_of_iff _ ⟨IsExact.of_isExact, isExact_of_isExact⟩

end Value

def numberTree (text : List Char) : Tree :=
  ((Numeral.ofBytes? (Utf8.encode text)).map Tree.number).getD .null

theorem numberTree_integerText (i : Int) :
    numberTree (Value.integerText i) = .number (integerNumeral i) := by
  rw [numberTree, ofBytes?_integerText]
  rfl

namespace Value

mutual

def tree : Value → Tree
  | .null => .null
  | .bool b => .bool b
  | .integer i => numberTree (integerText i)
  | .real negative magnitude => numberTree (chars (.real negative magnitude))
  | .text s => .text (literal s)
  | .array items => .array (itemTrees items)
  | .object members => .object (memberTrees members)

def itemTrees : List Value → List Tree
  | [] => []
  | item :: rest => item.tree :: itemTrees rest

def memberTrees : Members → List (TextLiteral × Tree)
  | [] => []
  | (key, item) :: rest => (literal key, item.tree) :: memberTrees rest

end

theorem itemTrees_eq (items : List Value) : itemTrees items = items.map tree := by
  induction items with
  | nil => rfl
  | cons item items ih => rw [itemTrees, ih]; rfl

theorem memberTrees_eq (members : Members) :
    memberTrees members = members.map fun m => (literal m.1, m.2.tree) := by
  induction members with
  | nil => rfl
  | cons m members ih => rw [memberTrees, ih]; rfl

@[simp] theorem tree_array (items : List Value) :
    tree (.array items) = .array (items.map tree) := by
  rw [tree, itemTrees_eq]

@[simp] theorem tree_object (members : Members) :
    tree (.object members) = .object (members.map fun m => (literal m.1, m.2.tree)) := by
  rw [tree, memberTrees_eq]

@[simp] theorem tree_integer (i : Int) : tree (.integer i) = .number (integerNumeral i) :=
  numberTree_integerText i

@[simp] theorem tree_text (s : String) : tree (.text s) = .text (literal s) := rfl

@[simp] theorem tree_bool (b : Bool) : tree (.bool b) = .bool b := rfl

@[simp] theorem tree_null : tree .null = .null := rfl

end Value

/-! ## Texts that hold documents -/

/-- A text holds the tokens of a document, wherever a value may stand. -/
def Spells (text : List Char) (tree : Tree) : Prop :=
  ∃ tokens, Scans text tokens ∧
    ∀ within, tokens.foldlM Reader.step (.value within) = some (.after within tree)

theorem ofBytes?_of_spells {text : List Char} {tree : Tree} (h : Spells text tree) :
    Tree.ofBytes? (Utf8.encode text) = some tree := by
  obtain ⟨tokens, hscan, hread⟩ := h
  simp [Tree.ofBytes?, tokens?_of_scans hscan, hread, Reader.finish]

theorem Spells.token {text : List Char} {token : Token} {tree : Tree} (hscan : Scans text [token])
    (hread : ∀ within, Reader.valueStep within token = some (.after within tree)) :
    Spells text tree :=
  ⟨[token], hscan, fun within => by simp [Reader.step, hread]⟩

/-! ### Containers -/

/-- Where a value may stand, but also the end of the array, a value is read as ever. -/
theorem firstItem_of_value {tokens : List Token} {within outer : List Container} {tree : Tree}
    (h : tokens.foldlM Reader.step (.value (.array [] :: within)) = some (.after outer tree)) :
    tokens.foldlM Reader.step (.firstItem within) = some (.after outer tree) := by
  cases tokens with
  | nil => simp at h
  | cons token tokens =>
      rw [List.foldlM_cons] at h ⊢
      cases token <;> first | exact h | simp [Reader.step, Reader.valueStep] at h

theorem firstKey_of_key {tokens : List Token} {within outer : List Container} {tree : Tree}
    (h : tokens.foldlM Reader.step (.key within []) = some (.after outer tree)) :
    tokens.foldlM Reader.step (.firstKey within) = some (.after outer tree) := by
  cases tokens with
  | nil => simp at h
  | cons token tokens =>
      rw [List.foldlM_cons] at h ⊢
      cases token <;> first | exact h | simp [Reader.step] at h

/-- Items, each but the first after a comma, and the end of the array. -/
theorem spells_items {item : Value} {rest : List Value}
    (h : ∀ v ∈ item :: rest, Spells v.chars v.tree) :
    ∃ tokens, Scans (item.chars ++ Value.itemChars rest ++ [']']) tokens ∧
      ∀ read within, tokens.foldlM Reader.step (.value (.array read :: within)) =
        some (.after within (.array (read.reverse ++ (item :: rest).map Value.tree))) := by
  induction rest generalizing item with
  | nil =>
      obtain ⟨tokens, hscan, hread⟩ := h item (.head _)
      refine ⟨tokens ++ [.closeArray], ?_, fun read within => ?_⟩
      · simpa [Value.itemChars] using hscan.append_delimiter (c := ']') rfl scans_nil
      · rw [List.foldlM_append, hread]
        simp [Reader.step, Reader.afterStep]
  | cons next rest ih =>
      obtain ⟨tokens, hscan, hread⟩ := h item (.head _)
      obtain ⟨more, hscan', hread'⟩ := ih fun v hv => h v (.tail _ hv)
      refine ⟨tokens ++ .comma :: more, ?_, fun read within => ?_⟩
      · simpa [Value.itemChars] using hscan.append_delimiter (c := ',') rfl hscan'
      · rw [List.foldlM_append, hread]
        simpa [Reader.step, Reader.afterStep] using hread' (item.tree :: read) within

theorem spells_member (key : String) {item : Value} (h : Spells item.chars item.tree) :
    ∃ tokens, Scans (quote key ++ ':' :: item.chars) tokens ∧
      ∀ read within, tokens.foldlM Reader.step (.key within read) =
        some (.after (.object read (literal key) :: within) item.tree) := by
  obtain ⟨tokens, hscan, hread⟩ := h
  refine ⟨.text (literal key) :: .colon :: tokens, ?_, fun read within => ?_⟩
  · exact (scans_quote key).append_delimiter (c := ':') rfl hscan
  · simp only [List.foldlM_cons, Reader.step, Option.bind_eq_bind, Option.bind_some]
    exact hread _

/-- Members, each but the first after a comma, and the end of the object. -/
theorem spells_members {m : String × Value} {rest : Members}
    (h : ∀ m' ∈ m :: rest, Spells m'.2.chars m'.2.tree) :
    ∃ tokens, Scans (quote m.1 ++ ':' :: m.2.chars ++ Value.memberChars rest ++ ['\x7d']) tokens ∧
      ∀ read within, tokens.foldlM Reader.step (.key within read) =
        some (.after within (.object
          (read.reverse ++ (m :: rest).map fun m => (literal m.1, m.2.tree)))) := by
  induction rest generalizing m with
  | nil =>
      obtain ⟨tokens, hscan, hread⟩ := spells_member m.1 (h m (.head _))
      refine ⟨tokens ++ [.closeObject], ?_, fun read within => ?_⟩
      · simpa [Value.memberChars] using hscan.append_delimiter (c := '\x7d') rfl scans_nil
      · rw [List.foldlM_append, hread]
        simp [Reader.step, Reader.afterStep]
  | cons next rest ih =>
      obtain ⟨tokens, hscan, hread⟩ := spells_member m.1 (h m (.head _))
      obtain ⟨more, hscan', hread'⟩ := ih fun m' hm => h m' (.tail _ hm)
      refine ⟨tokens ++ .comma :: more, ?_, fun read within => ?_⟩
      · simpa [Value.memberChars] using hscan.append_delimiter (c := ',') rfl hscan'
      · rw [List.foldlM_append, hread]
        simpa [Reader.step, Reader.afterStep] using hread' ((literal m.1, m.2.tree) :: read) within

/-! ## Values -/

theorem spells_value {v : Value} (h : v.IsExact) : Spells v.chars v.tree := by
  induction h with
  | null =>
      have hscan : Scans ['n', 'u', 'l', 'l'] [.word [0x6E, 0x75, 0x6C, 0x6C]] :=
        fun before => ⟨_, rfl, rfl⟩
      exact .token hscan fun within => rfl
  | bool b =>
      cases b with
      | true =>
          have hscan : Scans ['t', 'r', 'u', 'e'] [.word [0x74, 0x72, 0x75, 0x65]] :=
            fun before => ⟨_, rfl, rfl⟩
          exact .token hscan fun within => rfl
      | false =>
          have hscan : Scans ['f', 'a', 'l', 's', 'e'] [.word [0x66, 0x61, 0x6C, 0x73, 0x65]] :=
            fun before => ⟨_, rfl, rfl⟩
          exact .token hscan fun within => rfl
  | integer i =>
      refine .token (scans_integerText i) fun within => ?_
      simp [Reader.valueStep, ofBytes?_integerText]
  | text s => exact .token (scans_quote s) fun within => rfl
  | @array items _ ih =>
      cases items with
      | nil =>
          have hclose : Scans [']'] [.closeArray] := scans_nil.delimiter_cons rfl
          exact ⟨[.openArray, .closeArray], hclose.delimiter_cons rfl, fun within => rfl⟩
      | cons item rest =>
          obtain ⟨tokens, hscan, hread⟩ := spells_items ih
          refine ⟨.openArray :: tokens, hscan.delimiter_cons rfl, fun within => ?_⟩
          rw [Value.tree_array]
          exact firstItem_of_value (hread [] within)
  | @object members _ ih =>
      cases members with
      | nil =>
          have hclose : Scans ['\x7d'] [.closeObject] := scans_nil.delimiter_cons rfl
          exact ⟨[.openObject, .closeObject], hclose.delimiter_cons rfl, fun within => rfl⟩
      | cons m rest =>
          obtain ⟨tokens, hscan, hread⟩ := spells_members ih
          refine ⟨.openObject :: tokens, hscan.delimiter_cons rfl, fun within => ?_⟩
          rw [Value.tree_object]
          exact firstKey_of_key (hread [] within)

/-- The document of a value is read from its text. -/
theorem ofBytes?_render {v : Value} (h : v.IsExact) :
    Tree.ofBytes? (Utf8.encode v.render.toList) = some v.tree := by
  have hchars : v.render.toList = v.chars := String.toList_ofList
  rw [hchars]
  exact ofBytes?_of_spells (spells_value h)

end TaskMonitor.Json
