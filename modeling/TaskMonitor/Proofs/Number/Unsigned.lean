import TaskMonitor.Number.Unsigned

/-! # Powers, and reading a number back from its digits -/

namespace TaskMonitor

theorem twoTo_add (m n : Nat) : twoTo (m + n) = twoTo m * twoTo n := Nat.pow_add 2 m n

theorem tenTo_add (m n : Nat) : tenTo (m + n) = tenTo m * tenTo n := Nat.pow_add 10 m n

theorem tenTo_pos (n : Nat) : 0 < tenTo n := Nat.pow_pos (by decide)

namespace Unsigned

open Nat (ofDigitChars toDigits)

theorem le_ofDigitChars (digits : List Char) (n : Nat) : n ≤ ofDigitChars 10 digits n := by
  induction digits generalizing n with
  | nil => simp
  | cons c digits ih =>
      rw [Nat.ofDigitChars_cons]
      exact Nat.le_trans (by omega) (ih _)

theorem readDigits_eq {digits : List Char} {n : Nat} (hdigits : ∀ c ∈ digits, c.isDigit = true)
    (hsize : ofDigitChars 10 digits n < wordLimit) :
    readDigits n digits = .ok (ofDigitChars 10 digits n) := by
  induction digits generalizing n with
  | nil => simp [readDigits]
  | cons c digits ih =>
      have hc : Text.isDigit c = true := hdigits c (.head _)
      rw [Nat.ofDigitChars_cons, Nat.mul_comm] at hsize ⊢
      have hn : n * 10 + Text.digitValue c < wordLimit :=
        Nat.lt_of_le_of_lt (le_ofDigitChars digits _) hsize
      simp only [readDigits, hc, Bool.not_true, Bool.false_eq_true, if_false, if_pos hn]
      exact ih (fun c' hmem => hdigits c' (.tail _ hmem)) hsize

theorem read_of_digits {digits : List Char} (hne : digits ≠ [])
    (hdigits : ∀ c ∈ digits, c.isDigit = true) : read digits = readDigits 0 digits := by
  have hplus : '+' ∉ digits := fun hmem => absurd (hdigits '+' hmem) (by decide)
  unfold read
  split
  · exact absurd rfl hne
  · simp at hplus
  · simp at hplus
  · rfl

/-- A number of 64 bits is read back from its digits. -/
theorem read_toDigits {n : Nat} (h : n < wordLimit) : read (toDigits 10 n) = .ok n := by
  have hdigits : ∀ c ∈ toDigits 10 n, c.isDigit = true := fun c hc =>
    Nat.isDigit_of_mem_toDigits (by omega) (by omega) hc
  rw [read_of_digits Nat.toDigits_ne_nil hdigits,
    readDigits_eq hdigits (by rwa [Nat.ofDigitChars_ten_toDigits]), Nat.ofDigitChars_ten_toDigits]

end Unsigned

end TaskMonitor
