import Mathlib.Algebra.Order.Field.Power
import Mathlib.Data.Rat.Cast.Order
import Mathlib.Tactic.FieldSimp
import Mathlib.Tactic.Linarith
import Mathlib.Tactic.Ring
import TaskMonitor.Number.Binary64

/-! # Values of binary floating-point numbers

A quotient is rounded to a number of 53 bits. One that such a number can hold is its own nearest
number, so whole numbers of 53 bits and their quotients by powers of two are exact. -/

namespace TaskMonitor

/-! ## Rounding to whole numbers -/

/-- The nearest whole number, and the even one where two are as near. -/
structure IsHalfEven (x : ℚ) (n : Nat) : Prop where
  near : |(n : ℚ) - x| ≤ 1 / 2
  even : |(n : ℚ) - x| = 1 / 2 → n % 2 = 0

namespace IsHalfEven

variable {x y : ℚ} {m n : Nat}

theorem of_lt (h : |(n : ℚ) - x| < 1 / 2) : IsHalfEven x n :=
  ⟨h.le, fun htie => absurd htie h.ne⟩

theorem natCast (n : Nat) : IsHalfEven n n := of_lt (by simp)

theorem down {f : ℚ} (hf : 0 ≤ f) (h : f < 1 / 2) : IsHalfEven (n + f) n := by
  apply of_lt
  rw [abs_lt]
  constructor <;> linarith

theorem up {f : ℚ} (h : 1 / 2 < f) (hf : f < 1) : IsHalfEven (n + f) (n + 1 : Nat) := by
  apply of_lt
  rw [abs_lt, Nat.cast_succ]
  constructor <;> linarith

theorem tie_down (heven : n % 2 = 0) : IsHalfEven (n + 1 / 2) n := by
  refine ⟨?_, fun _ => heven⟩
  rw [abs_le]
  constructor <;> linarith

theorem tie_up (hodd : n % 2 ≠ 0) : IsHalfEven (n + 1 / 2) (n + 1 : Nat) := by
  refine ⟨?_, fun _ => by omega⟩
  rw [abs_le, Nat.cast_succ]
  constructor <;> linarith

/-- Two numbers rounded apart in the wrong order could only be neighbours on a tie, and one of
them is odd. -/
theorem mono (hm : IsHalfEven x m) (hn : IsHalfEven y n) (h : x ≤ y) : m ≤ n := by
  by_contra hlt
  have hgap : (n : ℚ) + 1 ≤ m := by exact_mod_cast Nat.not_le.mp hlt
  have hleft := (abs_le.mp hm.near).2
  have hright := (abs_le.mp hn.near).1
  have hx : (m : ℚ) - x = 1 / 2 := by linarith
  have hy : (n : ℚ) - y = -(1 / 2) := by linarith
  have hnext : m = n + 1 := by
    have hcast : (m : ℚ) = n + 1 := by linarith
    exact_mod_cast hcast
  have heven := hm.even (by rw [hx]; norm_num)
  have heven' := hn.even (by rw [hy]; norm_num)
  omega

theorem unique (hm : IsHalfEven x m) (hn : IsHalfEven x n) : m = n :=
  Nat.le_antisymm (hm.mono hn le_rfl) (hn.mono hm le_rfl)

theorem eq_natCast (h : IsHalfEven (n : ℚ) m) : m = n := h.unique (natCast n)

end IsHalfEven

theorem isHalfEven_divideHalfEven (num : Nat) {den : Nat} (h : den ≠ 0) :
    IsHalfEven (num / den) (divideHalfEven num den) := by
  have hden : (0 : ℚ) < den := by exact_mod_cast Nat.pos_of_ne_zero h
  -- the fraction beside the whole quotient decides
  obtain ⟨f, hf⟩ : ∃ f : ℚ, f = (num % den : Nat) / den := ⟨_, rfl⟩
  have hsplit : (num : ℚ) / den = (num / den : Nat) + f := by
    have hcast : (num : ℚ) = den * (num / den : Nat) + (num % den : Nat) := by
      exact_mod_cast (Nat.div_add_mod num den).symm
    rw [hf, hcast]
    field_simp
  have hless : 2 * (num % den) < den ↔ f < 1 / 2 := by
    rw [hf, div_lt_div_iff₀ hden two_pos, one_mul, mul_comm]
    exact_mod_cast Iff.rfl
  have hmore : den < 2 * (num % den) ↔ 1 / 2 < f := by
    rw [hf, div_lt_div_iff₀ two_pos hden, one_mul, mul_comm]
    exact_mod_cast Iff.rfl
  have hnonneg : 0 ≤ f := hf ▸ div_nonneg (Nat.cast_nonneg _) hden.le
  have hone : f < 1 := by
    rw [hf, div_lt_one₀ hden]
    exact_mod_cast Nat.mod_lt num (Nat.pos_of_ne_zero h)
  rw [hsplit]
  unfold divideHalfEven
  simp only
  split
  next hdown => exact .down hnonneg (hless.mp hdown)
  next hdown =>
    split
    next hup => exact .up (hmore.mp hup) hone
    next hup =>
      have htie : f = 1 / 2 :=
        le_antisymm (not_lt.mp (mt hmore.mpr hup)) (not_lt.mp (mt hless.mpr hdown))
      rw [htie]
      split
      next heven => exact .tie_down heven
      next hodd => exact .tie_up hodd

namespace Binary64

/-! ## Values -/

def toRat (x : Binary64) : ℚ := x.mantissa * 2 ^ x.exponent

theorem cast_twoTo_pos (n : Nat) : (0 : ℚ) < twoTo n := by
  exact_mod_cast Nat.pow_pos (by decide)

theorem cast_twoTo (n : Nat) : (twoTo n : ℚ) = 2 ^ (n : Int) := by
  rw [zpow_natCast]
  exact_mod_cast rfl

/-- A power of two as a quotient of whole numbers, one of which is one. -/
theorem twoTo_div_twoTo (e : Int) : (twoTo e.toNat : ℚ) / twoTo (-e).toNat = 2 ^ e := by
  rw [cast_twoTo, cast_twoTo, ← zpow_sub₀ two_ne_zero]
  congr 1
  omega

theorem numerator_div_denominator (x : Binary64) : (x.numerator : ℚ) / x.denominator = x.toRat := by
  rw [numerator, denominator, toRat, ← twoTo_div_twoTo x.exponent, Nat.cast_mul, mul_div_assoc]

theorem denominator_ne_zero (x : Binary64) : x.denominator ≠ 0 := by
  exact_mod_cast (cast_twoTo_pos _).ne'

/-! ## The last bit -/

theorem two_zpow_le_iff {num den : Nat} (hden : den ≠ 0) (e : Int) :
    den * twoTo e.toNat ≤ num * twoTo (-e).toNat ↔ (2 : ℚ) ^ e ≤ num / den := by
  have hpos : (0 : ℚ) < den := by exact_mod_cast Nat.pos_of_ne_zero hden
  rw [← twoTo_div_twoTo, div_le_div_iff₀ (cast_twoTo_pos _) hpos, mul_comm]
  exact_mod_cast Iff.rfl

theorem log2_between {n : Nat} (h : n ≠ 0) :
    (2 : ℚ) ^ (n.log2 : Int) ≤ n ∧ (n : ℚ) < 2 ^ ((n.log2 : Int) + 1) := by
  rw [← Nat.cast_succ, zpow_natCast, zpow_natCast]
  exact ⟨by exact_mod_cast Nat.log2_self_le h, by exact_mod_cast Nat.lt_log2_self⟩

/-- The logarithms of two numbers tell their quotient up to a factor of four. -/
theorem quotient_between {num den : Nat} (hnum : num ≠ 0) (hden : den ≠ 0) :
    (2 : ℚ) ^ ((num.log2 : Int) - den.log2 - 1) < num / den ∧
      (num : ℚ) / den < 2 ^ ((num.log2 : Int) - den.log2 + 1) := by
  have hpos : (0 : ℚ) < den := by exact_mod_cast Nat.pos_of_ne_zero hden
  obtain ⟨hnumLow, hnumHigh⟩ := log2_between hnum
  obtain ⟨hdenLow, hdenHigh⟩ := log2_between hden
  constructor
  · calc (2 : ℚ) ^ ((num.log2 : Int) - den.log2 - 1)
        = 2 ^ (num.log2 : Int) / 2 ^ ((den.log2 : Int) + 1) := by
          rw [← zpow_sub₀ two_ne_zero, sub_sub]
      _ ≤ num / 2 ^ ((den.log2 : Int) + 1) := by gcongr
      _ < num / den := by gcongr
  · calc (num : ℚ) / den
        < 2 ^ ((num.log2 : Int) + 1) / den := by gcongr
      _ ≤ 2 ^ ((num.log2 : Int) + 1) / 2 ^ (den.log2 : Int) := by gcongr
      _ = 2 ^ ((num.log2 : Int) - den.log2 + 1) := by
          rw [← zpow_sub₀ two_ne_zero, add_sub_right_comm]

/-- The last bit of 53, the first of which is the greatest power of two in the quotient, unless
there is no such exponent. -/
theorem exists_lastBit_eq {num den : Nat} (hnum : num ≠ 0) (hden : den ≠ 0) :
    ∃ top : Int, lastBit num den = max (top - 52) (-1074) ∧
      (2 : ℚ) ^ top ≤ num / den ∧ (num : ℚ) / den < 2 ^ (top + 1) := by
  obtain ⟨hlow, hhigh⟩ := quotient_between hnum hden
  unfold lastBit
  simp only [two_zpow_le_iff hden]
  split
  next hguess => exact ⟨_, rfl, hguess, hhigh⟩
  next hguess =>
    refine ⟨_, rfl, hlow.le, ?_⟩
    rw [sub_add_cancel]
    exact not_le.mp hguess

/-- It leaves room for the quotient in 53 bits, and every other exponent that does is as great. -/
theorem lastBit_spec {num den : Nat} (hnum : num ≠ 0) (hden : den ≠ 0) :
    (num : ℚ) / den < 2 ^ (lastBit num den + 53) ∧
      ∀ e : Int, -1074 ≤ e → (num : ℚ) / den < 2 ^ (e + 53) → lastBit num den ≤ e := by
  obtain ⟨top, hlast, hlow, hhigh⟩ := exists_lastBit_eq hnum hden
  constructor
  · exact hhigh.trans_le (zpow_le_zpow_right₀ one_le_two (by omega))
  · intro e hleast hroom
    have htop : top < e + 53 := (zpow_lt_zpow_iff_right₀ one_lt_two).mp (hlow.trans_lt hroom)
    omega

/-! ## Exact results -/

/-- A value with a mantissa of 53 bits at an exponent that there is. -/
def IsHeld (v : ℚ) : Prop :=
  ∃ (mantissa : Nat) (exponent : Int),
    mantissa < 2 * leastLong ∧ -1074 ≤ exponent ∧ exponent ≤ 971 ∧ v = mantissa * 2 ^ exponent

theorem two_mul_leastLong : ((2 * leastLong : Nat) : ℚ) = 2 ^ (53 : Int) := by
  norm_num [leastLong]

/-- A quotient that ends with the last bit is not rounded. -/
theorem nearest?_of_eq {num den mantissa : Nat} (hnum : num ≠ 0) (hden : den ≠ 0)
    (hmost : lastBit num den ≤ 971) (h : (num : ℚ) / den = mantissa * 2 ^ lastBit num den) :
    nearest? num den = some ⟨mantissa, lastBit num den⟩ := by
  have hroom := (lastBit_spec hnum hden).1
  have hlong : mantissa ≠ 2 * leastLong := by
    rintro rfl
    rw [h, two_mul_leastLong, ← zpow_add₀ two_ne_zero, add_comm] at hroom
    exact lt_irrefl _ hroom
  have hscaled : ((num * twoTo (-lastBit num den).toNat : Nat) : ℚ) /
      (den * twoTo (lastBit num den).toNat : Nat) = mantissa := by
    rw [Nat.cast_mul, Nat.cast_mul, mul_div_mul_comm, h, ← twoTo_div_twoTo (lastBit num den)]
    field_simp [(cast_twoTo_pos _).ne']
  have hmantissa : divideHalfEven (num * twoTo (-lastBit num den).toNat)
      (den * twoTo (lastBit num den).toNat) = mantissa := by
    have hne : den * twoTo (lastBit num den).toNat ≠ 0 :=
      Nat.mul_ne_zero hden (by exact_mod_cast (cast_twoTo_pos _).ne')
    have hround := isHalfEven_divideHalfEven (num * twoTo (-lastBit num den).toNat) hne
    rw [hscaled] at hround
    exact hround.eq_natCast
  unfold nearest?
  simp only [if_neg hnum, hmantissa, if_neg hlong, if_pos hmost]

theorem nearest?_of_isHeld {num den : Nat} (hden : den ≠ 0) (h : IsHeld (num / den)) :
    ∃ x, nearest? num den = some x ∧ x.toRat = num / den := by
  by_cases hnum : num = 0
  · exact ⟨zero, by rw [nearest?, if_pos hnum], by simp [hnum, zero, toRat]⟩
  obtain ⟨mantissa, exponent, hbits, hleast, hmost, hvalue⟩ := h
  have hlast : lastBit num den ≤ exponent := by
    apply (lastBit_spec hnum hden).2 exponent hleast
    rw [hvalue, add_comm, zpow_add₀ two_ne_zero, ← two_mul_leastLong]
    gcongr
  obtain ⟨zeros, hzeros⟩ := Int.le.dest hlast
  have hlong : (num : ℚ) / den = (mantissa * twoTo zeros : Nat) * 2 ^ lastBit num den := by
    rw [hvalue, ← hzeros, add_comm, zpow_add₀ two_ne_zero, Nat.cast_mul, cast_twoTo, mul_assoc]
  exact ⟨_, nearest?_of_eq hnum hden (hlast.trans hmost) hlong, hlong.symm⟩

theorem isHeld_div_twoTo {n k : Nat} (hn : n < 2 * leastLong) (hk : k ≤ 1074) :
    IsHeld (n / twoTo k) := by
  refine ⟨n, -k, hn, by omega, by omega, ?_⟩
  rw [zpow_neg, ← cast_twoTo, div_eq_mul_inv]

theorem ofNat?_of_lt {n : Nat} (h : n < 2 * leastLong) :
    ∃ x, ofNat? n = some x ∧ x.toRat = n := by
  have hheld : IsHeld (n / (1 : Nat)) := isHeld_div_twoTo (k := 0) h (by omega)
  obtain ⟨x, hx, hvalue⟩ := nearest?_of_isHeld one_ne_zero hheld
  exact ⟨x, hx, by rw [hvalue, Nat.cast_one, div_one]⟩

theorem div?_of_isHeld {x y : Binary64} (hy : y.toRat ≠ 0) (h : IsHeld (x.toRat / y.toRat)) :
    ∃ q, x.div? y = some q ∧ q.toRat = x.toRat / y.toRat := by
  have hquotient : ((x.numerator * y.denominator : Nat) : ℚ) / (x.denominator * y.numerator : Nat) =
      x.toRat / y.toRat := by
    rw [← numerator_div_denominator, ← numerator_div_denominator, div_div_div_eq, Nat.cast_mul,
      Nat.cast_mul]
  have hnumerator : y.numerator ≠ 0 := by
    intro hzero
    rw [← numerator_div_denominator, hzero, Nat.cast_zero, zero_div] at hy
    exact hy rfl
  rw [← hquotient] at h ⊢
  exact nearest?_of_isHeld (Nat.mul_ne_zero x.denominator_ne_zero hnumerator) h

end Binary64

end TaskMonitor
