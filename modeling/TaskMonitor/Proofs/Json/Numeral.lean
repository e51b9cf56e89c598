import Mathlib.Tactic.IntervalCases
import TaskMonitor.Json.Value
import TaskMonitor.Proofs.Json.Scanning
import TaskMonitor.Proofs.Number.Decimal

/-! # Integers as written -/

namespace TaskMonitor.Json

open Nat (digitChar)
open Decimal (digits)

/-! ## Digits -/

def digitByte (d : Nat) : UInt8 := UInt8.ofNat (d + 0x30)

theorem encode_digits {ds : List Nat} (h : ∀ d ∈ ds, d < 10) :
    Utf8.encode (ds.map digitChar) = ds.map digitByte := by
  have hall : ∀ d < 10, String.utf8EncodeChar (digitChar d) = [digitByte d] := by decide
  induction ds with
  | nil => rfl
  | cons d ds ih =>
      rw [List.map_cons, Utf8.encode_cons, hall d (h d (.head _)),
        ih fun d hd => h d (.tail _ hd)]
      rfl

theorem digits_map_digitByte {ds : List Nat} (h : ∀ d ∈ ds, d < 10) :
    Numeral.digits (ds.map digitByte) = (ds, []) := by
  have hall : ∀ d < 10, isDigit (digitByte d) = true ∧ (digitByte d).toNat - 0x30 = d := by decide
  induction ds with
  | nil => rfl
  | cons d ds ih =>
      obtain ⟨hdigit, hvalue⟩ := hall d (h d (.head _))
      simp only [List.map_cons, Numeral.digits, hdigit, if_true, hvalue,
        ih fun d hd => h d (.tail _ hd)]

theorem whole?_digits (n : Nat) :
    Numeral.whole? ((digits n).map digitByte) = some (digits n, []) := by
  have hread := digits_map_digitByte fun d => Decimal.lt_of_mem_digits (n := n) (d := d)
  have hsome : Numeral.someDigits? ((digits n).map digitByte) = some (digits n, []) := by
    simp [Numeral.someDigits?, hread, Decimal.digits_ne_nil]
  have hzero : ¬ ((digits n).head? = some 0 ∧ (digits n).length ≠ 1) := by
    rintro ⟨hhead, hlength⟩
    obtain rfl := Decimal.eq_zero_of_head? hhead
    exact hlength rfl
  simp only [Numeral.whole?, hsome]
  simp [hzero]

/-! ## Integers -/

def integerNumeral (i : Int) : Numeral := ⟨decide (i < 0), digits i.natAbs, none, none⟩

theorem encode_integerText (i : Int) :
    Utf8.encode (Value.integerText i) =
      (if i < 0 then [0x2D] else []) ++ (digits i.natAbs).map digitByte := by
  have hdigits : Utf8.encode (Nat.toDigits 10 i.natAbs) = (digits i.natAbs).map digitByte := by
    rw [Decimal.toDigits_eq, encode_digits fun d => Decimal.lt_of_mem_digits]
  unfold Value.integerText
  split
  · rw [Utf8.encode_cons, hdigits]
    rfl
  · rw [hdigits]
    rfl

theorem digitByte_of_mem {n : Nat} {b : UInt8} (h : b ∈ (digits n).map digitByte) :
    isDigit b = true ∧ b ≠ 0x2D := by
  have hall : ∀ d < 10, isDigit (digitByte d) = true ∧ digitByte d ≠ 0x2D := by decide
  obtain ⟨d, hd, rfl⟩ := List.mem_map.mp h
  exact hall d (Decimal.lt_of_mem_digits hd)

theorem ofBytes?_integerText (i : Int) :
    Numeral.ofBytes? (Utf8.encode (Value.integerText i)) = some (integerNumeral i) := by
  rw [encode_integerText]
  have hwhole := whole?_digits i.natAbs
  by_cases hneg : i < 0
  · simp [Numeral.ofBytes?, integerNumeral, hneg, hwhole, Numeral.fraction?, Numeral.exponent?]
  · have hhead : ((digits i.natAbs).map digitByte).head? ≠ some 0x2D := fun h =>
      (digitByte_of_mem (List.mem_of_head? h)).2 rfl
    rw [if_neg hneg, List.nil_append]
    generalize (digits i.natAbs).map digitByte = bytes at hwhole hhead
    simp [Numeral.ofBytes?, integerNumeral, hneg, hhead, hwhole, Numeral.fraction?,
      Numeral.exponent?]

/-- An integer of 64 bits, signed or not. -/
def IsWord (i : Int) : Prop := -(wordLimit / 2 : Nat) ≤ i ∧ i < wordLimit

/-- Only integers of 64 bits are read. -/
theorem isWord_of_integer? {n : Numeral} {i : Int} (h : n.integer? = some i) : IsWord i := by
  have hlimit : wordLimit = 0x10000000000000000 := rfl
  simp only [Numeral.integer?] at h
  split at h
  · cases h
  split at h
  · split at h
    · cases h
      constructor <;> omega
    · cases h
  · split at h
    · cases h
      constructor <;> omega
    · cases h

theorem integer?_integerNumeral {i : Int} (h : IsWord i) :
    (integerNumeral i).integer? = some i := by
  have hlimit : wordLimit = 0x10000000000000000 := rfl
  obtain ⟨hlow, hhigh⟩ := h
  have hvalue : Numeral.ofDigits (digits i.natAbs) = i.natAbs := Decimal.value_digits i.natAbs
  by_cases hneg : i < 0
  · have hsize : 0 < i.natAbs ∧ i.natAbs ≤ wordLimit / 2 := by omega
    have hself : -(i.natAbs : Int) = i := by omega
    simp only [Numeral.integer?, integerNumeral, hneg, hvalue, hsize, hself, decide_true]
    rfl
  · have hsize : i.natAbs < wordLimit := by omega
    have hself : (i.natAbs : Int) = i := by omega
    simp only [Numeral.integer?, integerNumeral, hneg, hvalue, hsize, hself, decide_false]
    rfl

/-! ## Scanning -/

theorem foldlM_number {bytes : List UInt8} (h : ∀ b ∈ bytes, isDigit b = true)
    (tokens : List Token) (read : List UInt8) :
    bytes.foldlM Scanner.step ⟨tokens, .number read⟩ =
      some ⟨tokens, .number (bytes.reverse ++ read)⟩ := by
  induction bytes generalizing read with
  | nil => rfl
  | cons b bytes ih =>
      have hstep : Scanner.step ⟨tokens, .number read⟩ b = some ⟨tokens, .number (b :: read)⟩ := by
        simp [Scanner.step, isNumberByte, h b (.head _)]
      rw [List.foldlM_cons, hstep]
      simpa using ih (fun b' hmem => h b' (.tail _ hmem)) (b :: read)

theorem idleStep_digitByte (tokens : List Token) : ∀ d < 10,
    Scanner.idleStep tokens (digitByte d) = some ⟨tokens, .number [digitByte d]⟩ := by
  intro d hd
  interval_cases d <;> rfl

theorem scans_integerText (i : Int) :
    Scans (Value.integerText i) [.number (Utf8.encode (Value.integerText i))] := by
  intro before
  have hdigits : ∀ b ∈ (digits i.natAbs).map digitByte, isDigit b = true := fun b hb =>
    (digitByte_of_mem hb).1
  refine ⟨⟨before, .number (Utf8.encode (Value.integerText i)).reverse⟩, ?_, by
    simp [Scanner.settled?]⟩
  rw [encode_integerText]
  by_cases hneg : i < 0
  · have hminus : Scanner.step ⟨before, .idle⟩ 0x2D = some ⟨before, .number [0x2D]⟩ := rfl
    rw [if_pos hneg, List.cons_append, List.foldlM_cons, hminus]
    simpa using foldlM_number hdigits before [0x2D]
  · obtain ⟨d, ds, hds⟩ := List.exists_cons_of_ne_nil (Decimal.digits_ne_nil i.natAbs)
    have hd : d < 10 := Decimal.lt_of_mem_digits (by rw [hds]; exact .head _)
    have hfirst : Scanner.step ⟨before, .idle⟩ (digitByte d) =
        some ⟨before, .number [digitByte d]⟩ := idleStep_digitByte before d hd
    rw [hds] at hdigits ⊢
    rw [if_neg hneg, List.nil_append, List.map_cons, List.foldlM_cons, hfirst]
    simpa using foldlM_number (fun b hb => hdigits b (.tail _ hb)) before [digitByte d]

end TaskMonitor.Json
