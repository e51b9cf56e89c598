import TaskMonitor.Display.Amount
import TaskMonitor.Proofs.Number.Binary64
import TaskMonitor.Text.Basic

/-! # Sizes, as shown

A size is read back as tenths of a unit. Its unit is chosen before its number is rounded, so that
shortly before a megabyte there are 1024 kilobytes. -/

namespace TaskMonitor.Size

open Nat (toDigits ofDigitChars)

/-! ## Reading -/

/-- Tenths of a unit of so many bytes. -/
structure Shown where
  tenths : Nat
  unit : Nat
  deriving DecidableEq

def unit? (name : List Char) : Option Nat :=
  if name = ['B'] then some 1
  else if name = ['K', 'B'] then some kilobyte
  else if name = ['M', 'B'] then some megabyte
  else none

/-- Digits, perhaps a point and one more, and after a blank the name of a unit. -/
def read? (shown : String) : Option Shown :=
  let digits := shown.toList.takeWhile Char.isDigit
  let whole := ofDigitChars 10 digits 0
  if digits = [] then none
  else match shown.toList.dropWhile Char.isDigit with
    | ' ' :: name => (unit? name).map fun unit => ⟨10 * whole, unit⟩
    | '.' :: digit :: ' ' :: name =>
      if digit.isDigit then (unit? name).map fun unit => ⟨10 * whole + Text.digitValue digit, unit⟩
      else none
    | _ => none

theorem span_toDigits (n : Nat) {c : Char} (hc : c.isDigit = false) (rest : List Char) :
    (toDigits 10 n ++ c :: rest).takeWhile Char.isDigit = toDigits 10 n ∧
      (toDigits 10 n ++ c :: rest).dropWhile Char.isDigit = c :: rest := by
  have hdigits : ∀ d ∈ toDigits 10 n, d.isDigit = true := fun d hd =>
    Nat.isDigit_of_mem_toDigits (by omega) (by omega) hd
  rw [List.takeWhile_append_of_pos hdigits, List.dropWhile_append_of_pos hdigits]
  simp [hc]

section

variable {shown : String} {name : List Char} {n unit : Nat}

theorem read?_whole (hname : unit? name = some unit)
    (h : shown.toList = toDigits 10 n ++ ' ' :: name) : read? shown = some ⟨10 * n, unit⟩ := by
  obtain ⟨htake, hdrop⟩ := span_toDigits n (c := ' ') rfl name
  simp only [read?, h, htake, hdrop, hname, Nat.ofDigitChars_ten_toDigits,
    if_neg Nat.toDigits_ne_nil, Option.map_some]

theorem read?_tenths (hname : unit? name = some unit)
    (h : shown.toList = toDigits 10 (n / 10) ++ '.' :: (toDigits 10 (n % 10) ++ ' ' :: name)) :
    read? shown = some ⟨n, unit⟩ := by
  have hdigits : ∀ d < 10, (Nat.digitChar d).isDigit = true ∧
      Text.digitValue (Nat.digitChar d) = d := by
    decide
  obtain ⟨hdigit, hvalue⟩ := hdigits (n % 10) (Nat.mod_lt _ (by omega))
  obtain ⟨htake, hdrop⟩ := span_toDigits (n / 10) (c := '.') rfl
    (Nat.digitChar (n % 10) :: ' ' :: name)
  rw [Nat.toDigits_of_lt_base (Nat.mod_lt n (by omega)), List.singleton_append] at h
  simp only [read?, h, htake, hdrop, hname, hdigit, hvalue, Nat.ofDigitChars_ten_toDigits,
    if_neg Nat.toDigits_ne_nil, if_true, Option.map_some, Nat.div_add_mod]

end

def shown (bytes : Nat) : Shown :=
  if bytes < kilobyte then ⟨10 * bytes, 1⟩
  else if bytes < megabyte then ⟨tenths bytes kilobyte, kilobyte⟩
  else ⟨tenths bytes megabyte, megabyte⟩

theorem read?_text (bytes : Nat) : read? (text bytes) = some (shown bytes) := by
  have hbytes : unit? ['B'] = some 1 := rfl
  have hkilobytes : unit? ['K', 'B'] = some kilobyte := rfl
  have hmegabytes : unit? ['M', 'B'] = some megabyte := rfl
  unfold text shown
  split
  · exact read?_whole hbytes (by simp)
  · split
    · exact read?_tenths hkilobytes (by simp [tenthsText])
    · exact read?_tenths hmegabytes (by simp [tenthsText])

/-! ## Rounding -/

namespace Shown

def number (s : Shown) : ℚ := s.tenths / 10

def bytes (s : Shown) : ℚ := s.number * s.unit

/-- The tenths are the nearest to a number of bytes, and even ones where two are as near. -/
def IsRounded (s : Shown) (n : Nat) : Prop := IsHalfEven (10 * (n / s.unit)) s.tenths

def ofWhole (k unit : Nat) : Shown := ⟨10 * k, unit⟩

variable {s t : Shown} {k m n : Nat}

theorem isRounded_ofWhole (k : Nat) {unit : Nat} (h : unit ≠ 0) :
    (ofWhole k unit).IsRounded (k * unit) := by
  have hunit : (unit : ℚ) ≠ 0 := by exact_mod_cast h
  have hwhole : (10 * ((k * unit : Nat) / unit) : ℚ) = (10 * k : Nat) := by
    push_cast
    field_simp
  rw [IsRounded, ofWhole, hwhole]
  exact .natCast _

theorem bytes_ofWhole (k unit : Nat) : (ofWhole k unit).bytes = (k * unit : Nat) := by
  rw [bytes, number, ofWhole]
  push_cast
  ring

namespace IsRounded

/-- Half a tenth of the unit is the most that rounding adds or takes. -/
theorem near (h : s.IsRounded n) (hunit : s.unit ≠ 0) : |s.bytes - n| ≤ s.unit / 20 := by
  have htenth : (0 : ℚ) < s.unit / 10 := by
    have hpos : (0 : ℚ) < s.unit := by exact_mod_cast Nat.pos_of_ne_zero hunit
    linarith
  have hscale : s.bytes - n = (s.tenths - 10 * (n / s.unit)) * (s.unit / 10) := by
    rw [bytes, number]
    field_simp
  calc |s.bytes - n|
      = |(s.tenths : ℚ) - 10 * (n / s.unit)| * (s.unit / 10) := by
        rw [hscale, abs_mul, abs_of_pos htenth]
    _ ≤ 1 / 2 * (s.unit / 10) := mul_le_mul_of_nonneg_right (IsHalfEven.near h) htenth.le
    _ = s.unit / 20 := by ring

/-- In one unit more bytes are never shown as fewer. -/
theorem bytes_mono (hm : s.IsRounded m) (hn : t.IsRounded n) (hunit : s.unit = t.unit)
    (h : m ≤ n) : s.bytes ≤ t.bytes := by
  have htenths : s.tenths ≤ t.tenths := by
    apply IsHalfEven.mono hm hn
    rw [hunit]
    gcongr
  rw [bytes, bytes, number, number, hunit]
  gcongr

theorem bytes_le (hs : s.IsRounded n) (hunit : s.unit ≠ 0) (h : n ≤ k * s.unit) :
    s.bytes ≤ (k * s.unit : Nat) := by
  rw [← bytes_ofWhole]
  exact hs.bytes_mono (isRounded_ofWhole k hunit) rfl h

theorem le_bytes (hs : s.IsRounded n) (hunit : s.unit ≠ 0) (h : k * s.unit ≤ n) :
    (k * s.unit : Nat) ≤ s.bytes := by
  rw [← bytes_ofWhole]
  exact (isRounded_ofWhole k hunit).bytes_mono hs rfl h

end IsRounded

end Shown

theorem quotient?_of_lt {bytes unit : Nat} (h : bytes < 2 * Binary64.leastLong)
    (hunit : unit = kilobyte ∨ unit = megabyte) :
    ∃ q, quotient? bytes unit = some q ∧ q.toRat = bytes / unit := by
  obtain ⟨k, hk, rfl, hshort⟩ :
      ∃ k ≤ 1074, unit = twoTo k ∧ unit < 2 * Binary64.leastLong := by
    rcases hunit with rfl | rfl
    · exact ⟨10, by omega, rfl, by decide⟩
    · exact ⟨20, by omega, rfl, by decide⟩
  obtain ⟨x, hx, hbytes⟩ := Binary64.ofNat?_of_lt h
  obtain ⟨y, hy, htwoTo⟩ := Binary64.ofNat?_of_lt hshort
  have hheld : Binary64.IsHeld (x.toRat / y.toRat) := by
    rw [hbytes, htwoTo]
    exact Binary64.isHeld_div_twoTo h hk
  have hne : y.toRat ≠ 0 := by
    rw [htwoTo]
    exact (Binary64.cast_twoTo_pos k).ne'
  obtain ⟨q, hq, hvalue⟩ := Binary64.div?_of_isHeld hne hheld
  refine ⟨q, ?_, by rw [hvalue, hbytes, htwoTo]⟩
  rw [quotient?, hx, hy]
  exact hq

theorem isRounded_tenths {bytes unit : Nat} (h : bytes < 2 * Binary64.leastLong)
    (hunit : unit = kilobyte ∨ unit = megabyte) :
    (Shown.mk (tenths bytes unit) unit).IsRounded bytes := by
  obtain ⟨q, hq, hvalue⟩ := quotient?_of_lt h hunit
  have hround := isHalfEven_divideHalfEven (10 * q.numerator) q.denominator_ne_zero
  rw [Nat.cast_mul, mul_div_assoc, Binary64.numerator_div_denominator, hvalue] at hround
  rw [Shown.IsRounded, tenths, hq]
  exact hround

theorem isRounded_shown {bytes : Nat} (h : bytes < 2 * Binary64.leastLong) :
    (shown bytes).IsRounded bytes := by
  unfold shown
  split
  · have hbytes := Shown.isRounded_ofWhole bytes one_ne_zero
    rwa [mul_one] at hbytes
  · split
    · exact isRounded_tenths h (.inl rfl)
    · exact isRounded_tenths h (.inr rfl)

/-! ## Units -/

/-- The unit is the greatest of which there is at least one. -/
theorem unit_shown (bytes : Nat) :
    (bytes < kilobyte ∧ (shown bytes).unit = 1) ∨
      (kilobyte ≤ bytes ∧ bytes < megabyte ∧ (shown bytes).unit = kilobyte) ∨
        (megabyte ≤ bytes ∧ (shown bytes).unit = megabyte) := by
  unfold shown
  split
  next hbytes => exact .inl ⟨hbytes, rfl⟩
  next hbytes =>
    split
    next hkilobytes => exact .inr (.inl ⟨Nat.not_lt.mp hbytes, hkilobytes, rfl⟩)
    next hkilobytes => exact .inr (.inr ⟨Nat.not_lt.mp hkilobytes, rfl⟩)

theorem unit_shown_ne_zero (bytes : Nat) : (shown bytes).unit ≠ 0 := by
  rcases unit_shown bytes with ⟨-, hunit⟩ | ⟨-, -, hunit⟩ | ⟨-, hunit⟩ <;> rw [hunit] <;> decide

theorem unit_shown_le (bytes : Nat) : (shown bytes).unit = 1 ∨ (shown bytes).unit ≤ bytes := by
  rcases unit_shown bytes with ⟨-, hunit⟩ | ⟨hle, -, hunit⟩ | ⟨hle, hunit⟩
  · exact .inl hunit
  · exact .inr (hunit.trans_le hle)
  · exact .inr (hunit.trans_le hle)

/-- Two numbers of bytes have one unit, or the unit of the greater lies between them and is a
multiple of the other. -/
theorem unit_shown_between {m n : Nat} (h : m ≤ n) :
    (shown m).unit = (shown n).unit ∨
      ∃ k, (shown n).unit = k * (shown m).unit ∧ m ≤ (shown n).unit ∧ (shown n).unit ≤ n := by
  have hunits : kilobyte ≤ megabyte := by decide
  rcases unit_shown m with ⟨hm, hunit⟩ | ⟨hm, hm', hunit⟩ | ⟨hm, hunit⟩ <;>
    rcases unit_shown n with ⟨hn, hunit'⟩ | ⟨hn, hn', hunit'⟩ | ⟨hn, hunit'⟩ <;>
    rw [hunit, hunit']
  -- from bytes on
  · exact .inl rfl
  · exact .inr ⟨kilobyte, rfl, by omega, by omega⟩
  · exact .inr ⟨megabyte, rfl, by omega, by omega⟩
  -- from kilobytes on
  · omega
  · exact .inl rfl
  · exact .inr ⟨1024, rfl, by omega, by omega⟩
  -- from megabytes on
  · omega
  · omega
  · exact .inl rfl

theorem bytes_shown_mono {m n : Nat} (h : m ≤ n) (hn : n < 2 * Binary64.leastLong) :
    (shown m).bytes ≤ (shown n).bytes := by
  have hless := isRounded_shown (Nat.lt_of_le_of_lt h hn)
  have hmore := isRounded_shown hn
  rcases unit_shown_between h with hsame | ⟨k, hunit, hm, hn⟩
  · exact hless.bytes_mono hmore hsame h
  · calc (shown m).bytes
        ≤ (k * (shown m).unit : Nat) := hless.bytes_le (unit_shown_ne_zero m) (hm.trans_eq hunit)
      _ = (1 * (shown n).unit : Nat) := by rw [← hunit, one_mul]
      _ ≤ (shown n).bytes := hmore.le_bytes (unit_shown_ne_zero n) (by rwa [one_mul])

/-- Kilobytes are rounded up to a whole megabyte in the last 51 bytes before it, which are less
than half a tenth of a kilobyte. -/
theorem number_kilobytes_lt_iff {s : Shown} {n : Nat} (h : s.IsRounded n)
    (hunit : s.unit = kilobyte) : s.number < 1024 ↔ n + 51 < megabyte := by
  have hnear := abs_le.mp (IsHalfEven.near h)
  have hkilobyte : (s.unit : ℚ) = 1024 := by
    rw [hunit]
    rfl
  rw [hkilobyte] at hnear
  have htenths : s.number < 1024 ↔ s.tenths ≤ 10239 := by
    rw [Shown.number, div_lt_iff₀ (by norm_num), ← Nat.lt_succ_iff]
    exact_mod_cast Iff.rfl
  have hbytes : n + 51 < megabyte ↔ n ≤ 1048524 := by
    rw [megabyte]
    omega
  rw [htenths, hbytes]
  constructor
  · intro hle
    have hcast : (s.tenths : ℚ) ≤ 10239 := by exact_mod_cast hle
    have hlt : (n : ℚ) < 1048525 := by linarith
    exact Nat.lt_succ_iff.mp (by exact_mod_cast hlt)
  · intro hle
    have hcast : (n : ℚ) ≤ 1048524 := by exact_mod_cast hle
    have hlt : (s.tenths : ℚ) < 10240 := by linarith
    exact Nat.lt_succ_iff.mp (by exact_mod_cast hlt)

theorem number_bytes_lt {s : Shown} {n : Nat} (h : s.IsRounded n) (hunit : s.unit = 1)
    (hn : n < kilobyte) : s.number < 1024 := by
  have hle := h.bytes_le (k := 1023) (by omega) (by rw [hunit]; exact Nat.le_of_lt_succ hn)
  rw [Shown.bytes, hunit, Nat.cast_one, mul_one] at hle
  exact hle.trans_lt (by norm_num)

theorem number_shown_lt_iff {n : Nat} (h : n < 2 * Binary64.leastLong) :
    ((shown n).unit = 1 ∨ (shown n).unit = kilobyte → (shown n).number < 1024) ↔
      n + 51 < megabyte ∨ megabyte ≤ n := by
  have hround := isRounded_shown h
  rcases unit_shown n with ⟨hn, hunit⟩ | ⟨-, hn, hunit⟩ | ⟨hn, hunit⟩
  · have hfar : kilobyte + 51 ≤ megabyte := by decide
    exact ⟨fun _ => .inl (by omega), fun _ _ => number_bytes_lt hround hunit hn⟩
  · have hlt := number_kilobytes_lt_iff hround hunit
    constructor
    · intro hnumber
      exact .inl (hlt.mp (hnumber (.inr hunit)))
    · rintro (hless | hmore) -
      · exact hlt.mpr hless
      · omega
  · have hother : ¬ ((shown n).unit = 1 ∨ (shown n).unit = kilobyte) := by
      rw [hunit]
      decide
    exact ⟨fun _ => .inr hn, fun _ hsmall => absurd hsmall hother⟩

/-! ## Sizes that tell the bytes -/

/-- The tenths are the exact ones rounded to the nearest, so that the size is wrong by a twentieth
of its unit at most, and there is at least one of the unit. -/
structure Shown.Tells (s : Shown) (n : Nat) : Prop where
  rounded : s.IsRounded n
  near : |s.bytes - n| ≤ s.unit / 20
  enough : s.unit = 1 ∨ 1 ≤ s.number

theorem tells_shown {bytes : Nat} (h : bytes < 2 * Binary64.leastLong) :
    (shown bytes).Tells bytes := by
  have hround := isRounded_shown h
  refine ⟨hround, hround.near (unit_shown_ne_zero bytes), (unit_shown_le bytes).imp_right ?_⟩
  intro hle
  have hpos : (0 : ℚ) < (shown bytes).unit := by
    exact_mod_cast Nat.pos_of_ne_zero (unit_shown_ne_zero bytes)
  have hone := hround.le_bytes (k := 1) (unit_shown_ne_zero bytes) (by rwa [one_mul])
  rw [one_mul, Shown.bytes] at hone
  exact (le_mul_iff_one_le_left hpos).mp hone

/-- Bytes of 53 bits are divided exactly, the size shown tells them, and fewer of them never look
more. There are fewer than 1024 of a unit below the greatest, unless the bytes are rounded up to
the first megabyte. -/
theorem tells_text {bytes : Nat} (h : bytes < 2 ^ 53) :
    (∀ unit, unit = kilobyte ∨ unit = megabyte →
      ∃ q, quotient? bytes unit = some q ∧ q.toRat = bytes / unit) ∧
    ∃ s, read? (text bytes) = some s ∧ s.Tells bytes ∧
      (∀ fewer ≤ bytes, ∃ t, read? (text fewer) = some t ∧ t.bytes ≤ s.bytes) ∧
      ((s.unit = 1 ∨ s.unit = kilobyte → s.number < 1024) ↔
        bytes + 51 < megabyte ∨ megabyte ≤ bytes) := by
  have hlong : bytes < 2 * Binary64.leastLong := h
  refine ⟨fun unit hunit => quotient?_of_lt hlong hunit, shown bytes, read?_text bytes,
    tells_shown hlong, fun fewer hle => ?_, number_shown_lt_iff hlong⟩
  exact ⟨shown fewer, read?_text fewer, bytes_shown_mono hle hlong⟩

/-- The last number of bytes that is rounded down to less than 1024 kilobytes. -/
theorem last_kilobytes_told :
    1048524 < 2 ^ 53 ∧ read? "1023.9 KB" = some ⟨10239, kilobyte⟩ ∧ text 1048524 = "1023.9 KB" ∧
      (Shown.mk 10239 kilobyte).Tells 1048524 ∧ (Shown.mk 10239 kilobyte).number < 1024 := by
  have hread : read? "1023.9 KB" = some ⟨10239, kilobyte⟩ := by decide +kernel
  have htext : text 1048524 = "1023.9 KB" := by decide +kernel
  obtain ⟨-, s, hs, htells, -, hnumber⟩ := tells_text (show 1048524 < 2 ^ 53 by decide)
  obtain rfl : s = ⟨10239, kilobyte⟩ := by
    rw [htext, hread] at hs
    exact (Option.some.inj hs).symm
  exact ⟨by decide, hread, htext, htells, hnumber.mpr (.inl (by decide)) (.inr rfl)⟩

/-- One byte before a megabyte there are 1024 kilobytes. -/
theorem last_bytes_rounded_up :
    text 1048575 = "1024.0 KB" ∧ read? "1024.0 KB" = some ⟨10240, kilobyte⟩ ∧
      ¬ ∀ bytes < 2 ^ 53, ∃ s, read? (text bytes) = some s ∧
        (s.unit = 1 ∨ s.unit = kilobyte → s.number < 1024) := by
  have htext : text 1048575 = "1024.0 KB" := by decide +kernel
  have hread : read? "1024.0 KB" = some ⟨10240, kilobyte⟩ := by decide +kernel
  refine ⟨htext, hread, fun hall => ?_⟩
  obtain ⟨s, hs, hnumber⟩ := hall 1048575 (by decide)
  rw [htext, hread] at hs
  obtain rfl := Option.some.inj hs
  have hlt := hnumber (.inr rfl)
  rw [Shown.number] at hlt
  norm_num at hlt

end TaskMonitor.Size
