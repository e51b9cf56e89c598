import Mathlib.Data.List.Forall2
import TaskMonitor.Display.Preview
import TaskMonitor.Proofs.Json.Reading
import TaskMonitor.Proofs.Text.Fitting

/-! # What a preview shows

The entries are the first members of the payload, in its order. Their values are on one line each,
whatever they hold, and the keys are as they were sent. -/

namespace TaskMonitor.Preview

open Json (Value Members)
open Text (columnsOf Fitted)

/-! ## One line -/

def IsOneLine (text : List Char) : Prop := ∀ c ∈ text, isLineBreak c = false

instance (text : List Char) : Decidable (IsOneLine text) :=
  decidable_of_iff (text.all (!isLineBreak ·)) (by simp [IsOneLine])

@[simp] theorem isOneLine_nil : IsOneLine [] := List.forall_mem_nil _

@[simp] theorem isOneLine_cons {c : Char} {text : List Char} :
    IsOneLine (c :: text) ↔ isLineBreak c = false ∧ IsOneLine text := List.forall_mem_cons

@[simp] theorem isOneLine_append {xs ys : List Char} :
    IsOneLine (xs ++ ys) ↔ IsOneLine xs ∧ IsOneLine ys := List.forall_mem_append

theorem IsOneLine.subset {xs ys : List Char} (h : IsOneLine ys) (hsubset : xs ⊆ ys) :
    IsOneLine xs := fun c hc => h c (hsubset hc)

theorem isOneLine_flatten (text : List Char) : IsOneLine (flatten text) := by
  intro c hc
  obtain ⟨d, -, rfl⟩ := List.mem_map.mp hc
  cases hd : isLineBreak d with
  | true => rfl
  | false => simpa using hd

theorem IsOneLine.flatten_eq {text : List Char} (h : IsOneLine text) : flatten text = text := by
  have hself : ∀ c ∈ text, (if isLineBreak c then ' ' else c) = c := fun c hc => by simp [h c hc]
  exact (List.map_congr_left hself).trans (List.map_id' _)

theorem IsOneLine.fitBy {text : List Char} (h : IsOneLine text) (width : Char → Nat)
    (columns : Nat) : IsOneLine (Text.fitBy width columns text) := by
  unfold Text.fitBy
  split
  · exact h.subset (List.take_subset columns text)
  · split
    · exact h
    · exact isOneLine_append.mpr ⟨h.subset (Text.within_prefix _ _).subset, by decide⟩

/-! ## Compact JSON

Line breaks in texts are escaped, and nothing else stands on a line of its own. -/

theorem isOneLine_toDigits (n : Nat) : IsOneLine (Nat.toDigits 10 n) := by
  intro c hc
  have hdigit : c.isDigit = true := Decimal.isDigit_of_mem hc
  have hne : c ≠ '\n' ∧ c ≠ '\r' := by
    constructor <;> rintro rfl <;> simp at hdigit
  simp [isLineBreak, hne]

theorem isOneLine_quoteChar (c : Char) : IsOneLine (Json.quoteChar c) := by
  by_cases hbreak : isLineBreak c = true
  · have hc : c = '\n' ∨ c = '\r' := by simpa [isLineBreak] using hbreak
    rcases hc with rfl | rfl <;> decide
  · have hhex : ∀ d < 16, isLineBreak (Json.hexDigit d) = false := by decide
    unfold Json.quoteChar
    split_ifs with _ _ _ _ _ _ _ hcontrol
    any_goals decide
    · have hescape : IsOneLine ['\\', 'u', '0', '0'] := by decide
      have hdigits : IsOneLine [Json.hexDigit (c.toNat / 16), Json.hexDigit (c.toNat % 16)] := by
        simp [hhex (c.toNat / 16) (by omega), hhex (c.toNat % 16) (by omega)]
      exact isOneLine_append.mpr ⟨hescape, hdigits⟩
    · simpa using hbreak

theorem isOneLine_quote (text : String) : IsOneLine (Json.quote text) := by
  have hquotes : isLineBreak '"' = false := by decide
  have hchars : IsOneLine (text.toList.flatMap Json.quoteChar) := by
    intro c hc
    obtain ⟨d, -, hd⟩ := List.mem_flatMap.mp hc
    exact isOneLine_quoteChar d c hd
  simp [Json.quote, hquotes, hchars]

theorem isOneLine_integerText (i : Int) : IsOneLine (Value.integerText i) := by
  have hdigits := isOneLine_toDigits i.natAbs
  unfold Value.integerText
  split
  · exact isOneLine_cons.mpr ⟨by decide, hdigits⟩
  · exact hdigits

theorem isOneLine_realText (layout : Value.RealLayout) (d : Binary64.Decimal) :
    IsOneLine (Value.realText layout d) := by
  have hdigits := isOneLine_toDigits d.digits
  have htake (n : Nat) : IsOneLine ((Nat.toDigits 10 d.digits).take n) :=
    hdigits.subset (List.take_subset _ _)
  have hdrop (n : Nat) : IsOneLine ((Nat.toDigits 10 d.digits).drop n) :=
    hdigits.subset (List.drop_subset _ _)
  have hzeros (n : Nat) : IsOneLine (List.replicate n '0') := by
    intro c hc
    rw [List.eq_of_mem_replicate hc]
    decide
  unfold Value.realText
  simp only
  split
  · split
    · split <;> simp [isLineBreak, hdigits, hzeros]
    · split <;> simp [isLineBreak, hdigits, hzeros, htake, hdrop]
  · have hpower := isOneLine_toDigits
      (d.exponent + (Nat.toDigits 10 d.digits).length - 1).natAbs
    refine isOneLine_append.mpr ⟨isOneLine_append.mpr ⟨?_, ?_⟩, hpower⟩
    · split
      next heq =>
        rw [heq] at hdigits
        simpa [isLineBreak] using hdigits
      next => exact hdigits
    · split
      · decide
      · split <;> decide

mutual

theorem isOneLine_chars : (v : Value) → IsOneLine v.chars
  | .null => by decide
  | .bool true => by decide
  | .bool false => by decide
  | .integer i => isOneLine_integerText i
  | .real negative magnitude => by
      rw [Value.chars]
      refine isOneLine_append.mpr ⟨?_, isOneLine_realText _ _⟩
      split <;> decide
  | .text s => isOneLine_quote s
  | .array [] => by decide
  | .array (item :: rest) => by
      have hitem := isOneLine_chars item
      have hrest := isOneLine_itemChars rest
      simp [Value.chars, isLineBreak, hitem, hrest]
  | .object [] => by decide
  | .object ((key, item) :: rest) => by
      have hkey := isOneLine_quote key
      have hitem := isOneLine_chars item
      have hrest := isOneLine_memberChars rest
      simp [Value.chars, isLineBreak, hkey, hitem, hrest]

theorem isOneLine_itemChars : (items : List Value) → IsOneLine (Value.itemChars items)
  | [] => by decide
  | item :: rest => by
      have hitem := isOneLine_chars item
      have hrest := isOneLine_itemChars rest
      simp [Value.itemChars, isLineBreak, hitem, hrest]

theorem isOneLine_memberChars : (members : Members) → IsOneLine (Value.memberChars members)
  | [] => by decide
  | (key, item) :: rest => by
      have hkey := isOneLine_quote key
      have hitem := isOneLine_chars item
      have hrest := isOneLine_memberChars rest
      simp [Value.memberChars, isLineBreak, hkey, hitem, hrest]

end

theorem isOneLine_valueText {value : Value} (h : ∀ s, value = .text s → IsOneLine s.toList) :
    IsOneLine (valueText value) := by
  cases value with
  | text s => exact h s rfl
  | _ => exact isOneLine_chars _

/-! ## Entries -/

/-- What an entry shows of a member: the key, and the value on one line. A value that fits is shown
as a whole; of a text that breaks over lines, the line breaks are shown as blanks. -/
structure Shows (member : String × Value) (shown : String × String) : Prop where
  key : shown.1 = member.1
  oneLine : IsOneLine shown.2.toList
  fits : columnsOf Text.width shown.2.toList ≤ valueWidth
  whole : (∀ s, member.2 = .text s → IsOneLine s.toList) →
    columnsOf Text.width (valueText member.2) ≤ valueWidth → shown.2.toList = valueText member.2
  fitted : Fitted Text.width valueWidth (flatten (valueText member.2)) shown.2.toList

theorem shows_entry (key : String) (value : Value) : Shows (key, value) (entry key value) := by
  have hshown : (entry key value).2.toList =
      Text.fitBy Text.width valueWidth (flatten (valueText value)) := String.toList_ofList
  have hfitted : Fitted Text.width valueWidth (flatten (valueText value))
      (entry key value).2.toList := hshown ▸ Text.fitted_of_le (by decide) (by decide) _
  refine ⟨rfl, ?_, hfitted.fits, fun htext hwide => ?_, hfitted⟩
  · rw [hshown]
    exact (isOneLine_flatten _).fitBy _ _
  · have hflat : flatten (valueText value) = valueText value :=
      (isOneLine_valueText htext).flatten_eq
    rw [hflat] at hfitted
    exact hfitted.whole_iff.mpr hwide

theorem shows_ofPayload (payload : Members) :
    List.Forall₂ Shows (payload.take entryLimit) (ofPayload payload) := by
  rw [ofPayload, List.forall₂_map_right_iff, List.forall₂_same]
  exact fun member _ => shows_entry member.1 member.2

theorem keys_ofPayload (payload : Members) :
    (ofPayload payload).map (·.1) = (payload.map (·.1)).take entryLimit := by
  rw [ofPayload, List.map_map, List.map_take]
  rfl

/-- The first members of a payload are shown, in the order in which their keys stand first in the
document that was read. An entry takes more than a line only if its key does. -/
structure IsPreview (payload : Members) (entries : List (String × String)) : Prop where
  length : entries.length = min entryLimit payload.length
  shows : List.Forall₂ Shows (payload.take entryLimit) entries
  order : ∀ room trees, Value.ofMembers? room [] trees = some payload →
    entries.map (·.1) = (trees.filterMap fun m => m.1.text?).eraseDups.take entryLimit
  keys : (∀ e ∈ entries, IsOneLine e.1.toList) ↔
    ∀ m ∈ payload.take entryLimit, IsOneLine m.1.toList

theorem isPreview_ofPayload (payload : Members) : IsPreview payload (ofPayload payload) where
  length := by simp [ofPayload]
  shows := shows_ofPayload payload
  order room trees hread := by
    have hall (keys : List String) : keys.removeAll [] = keys :=
      List.filter_eq_self.mpr fun _ _ => rfl
    rw [keys_ofPayload, Value.keys_ofMembers? hread, List.map_nil, List.nil_append, hall]
  keys := by
    rw [ofPayload, List.forall_mem_map]
    exact Iff.rfl

/-- A key with a line break is shown as it is. -/
theorem broken_key_shown :
    ofPayload [("a\nb", .integer 1)] = [("a\nb", "1")] ∧
      ¬ ∀ payload, ∀ e ∈ ofPayload payload, IsOneLine e.1.toList ∧ IsOneLine e.2.toList := by
  have hshown : ofPayload [("a\nb", .integer 1)] = [("a\nb", "1")] := by decide +kernel
  refine ⟨hshown, fun h => ?_⟩
  have hkey := (h [("a\nb", .integer 1)] ("a\nb", "1") (by simp [hshown])).1
  exact absurd hkey (by decide)

end TaskMonitor.Preview
