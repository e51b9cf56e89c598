import TaskMonitor.Number.Unsigned
import TaskMonitor.Text.Basic

/-! # Numbers in decimal digits -/

namespace TaskMonitor.Decimal

open Nat (toDigits digitChar)

def digits (n : Nat) : List Nat := (toDigits 10 n).map Text.digitValue

def value (ds : List Nat) : Nat := ds.foldl (fun n d => n * 10 + d) 0

theorem digitChar_digitValue {c : Char} (h : c.isDigit = true) :
    Text.digitValue c < 10 ∧ digitChar (Text.digitValue c) = c := by
  have hall : ∀ n < 10, Text.digitValue (Char.ofNat (n + 0x30)) < 10 ∧
      digitChar (Text.digitValue (Char.ofNat (n + 0x30))) = Char.ofNat (n + 0x30) := by
    decide
  have hc : Char.ofNat c.toNat = c := Char.ofNat_toNat c
  have hbounds : 0x30 ≤ c.toNat ∧ c.toNat ≤ 0x39 := Char.isDigit_iff_toNat.mp h
  have hdigit := hall (c.toNat - 0x30) (by omega)
  rwa [Nat.sub_add_cancel hbounds.1, hc] at hdigit

theorem isDigit_of_mem {n : Nat} {c : Char} (h : c ∈ toDigits 10 n) : c.isDigit = true :=
  Nat.isDigit_of_mem_toDigits (by omega) (by omega) h

theorem toDigits_eq (n : Nat) : toDigits 10 n = (digits n).map digitChar := by
  have hself : ∀ c ∈ toDigits 10 n, digitChar (Text.digitValue c) = c := fun c hc =>
    (digitChar_digitValue (isDigit_of_mem hc)).2
  rw [digits, List.map_map]
  exact ((List.map_congr_left hself).trans (List.map_id' _)).symm

theorem lt_of_mem_digits {n d : Nat} (h : d ∈ digits n) : d < 10 := by
  obtain ⟨c, hc, rfl⟩ := List.mem_map.mp h
  exact (digitChar_digitValue (isDigit_of_mem hc)).1

theorem digits_ne_nil (n : Nat) : digits n ≠ [] := by
  simp [digits]

theorem value_digits (n : Nat) : value (digits n) = n := by
  have hspelled : value (digits n) = Nat.ofDigitChars 10 (toDigits 10 n) 0 := by
    rw [value, digits, List.foldl_map, Nat.ofDigitChars_eq_foldl]
    simp only [Nat.mul_comm 10]
    rfl
  rw [hspelled, Nat.ofDigitChars_ten_toDigits]

/-- Zeros in front do not count. -/
theorem value_replicate_append (k : Nat) (ds : List Nat) :
    value (List.replicate k 0 ++ ds) = value ds := by
  induction k with
  | zero => rfl
  | succ k ih => simpa [value, List.replicate_succ] using ih

/-- No zero comes first unless the number is zero. -/
theorem eq_zero_of_head? {n : Nat} (h : (digits n).head? = some 0) : n = 0 := by
  induction n using Nat.strongRecOn with
  | ind n ih =>
      by_cases hlt : n < 10
      · have hdigits : digits n = [n] := by
          have hall : ∀ n < 10, digits n = [n] := by decide
          exact hall n hlt
        simpa [hdigits] using h
      · have hdigits : digits n = digits (n / 10) ++ [Text.digitValue (digitChar (n % 10))] := by
          rw [digits, Nat.toDigits_of_base_le (by omega) (by omega), List.map_append]
          rfl
        have hhead : (digits (n / 10)).head? = some 0 := by
          rw [hdigits, List.head?_append] at h
          cases hfirst : (digits (n / 10)).head? with
          | none => exact absurd (List.head?_eq_none_iff.mp hfirst) (digits_ne_nil _)
          | some d => simpa [hfirst] using h
        have hzero := ih (n / 10) (by omega) hhead
        omega

theorem length_digits_le {n k : Nat} (hk : 0 < k) (h : n < tenTo k) : (digits n).length ≤ k := by
  rw [digits, List.length_map]
  exact (Nat.length_toDigits_le_iff (by omega) hk).mpr h

end TaskMonitor.Decimal
