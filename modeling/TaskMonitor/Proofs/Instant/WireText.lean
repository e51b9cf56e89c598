import Mathlib.Data.List.TakeWhile
import TaskMonitor.Instant.Reader
import TaskMonitor.Proofs.Number.Decimal
import TaskMonitor.Proofs.Number.Unsigned

/-! # Points in time that are read again -/

namespace TaskMonitor.Instant

open Nat (digitChar)
open Decimal (value)

/-! ## Digits -/

def paddedDigits (width n : Nat) : List Nat :=
  List.replicate (width - (Decimal.digits n).length) 0 ++ Decimal.digits n

theorem padded_eq (width n : Nat) : padded width n = (paddedDigits width n).map digitChar := by
  have hlength : (Nat.toDigits 10 n).length = (Decimal.digits n).length := by
    rw [Decimal.digits, List.length_map]
  have hzeros : digitChar 0 = '0' := rfl
  rw [padded, paddedDigits, List.map_append, ← Decimal.toDigits_eq, hlength, List.map_replicate,
    hzeros]

theorem value_paddedDigits (width n : Nat) : value (paddedDigits width n) = n := by
  rw [paddedDigits, Decimal.value_replicate_append, Decimal.value_digits]

theorem lt_of_mem_paddedDigits {width n d : Nat} (h : d ∈ paddedDigits width n) : d < 10 := by
  rcases List.mem_append.mp h with hzero | hdigit
  · rw [List.eq_of_mem_replicate hzero]
    decide
  · exact Decimal.lt_of_mem_digits hdigit

theorem length_paddedDigits (width : Nat) {n : Nat} (hwidth : 0 < width) (h : n < tenTo width) :
    (paddedDigits width n).length = width := by
  have hle := Decimal.length_digits_le hwidth h
  simp only [paddedDigits, List.length_append, List.length_replicate]
  omega

theorem paddedDigits_ne_nil (width n : Nat) : paddedDigits width n ≠ [] := by
  simp [paddedDigits, Decimal.digits_ne_nil]

theorem isDigit_digitChar {d : Nat} (h : d < 10) :
    Text.isDigit (digitChar d) = true ∧ Text.digitValue (digitChar d) = d := by
  have hall : ∀ d < 10, Text.isDigit (digitChar d) = true ∧
      Text.digitValue (digitChar d) = d := by
    decide
  exact hall d h

theorem foldl_digitChar {ds : List Nat} (h : ∀ d ∈ ds, d < 10) (n : Nat) :
    (ds.map digitChar).foldl (fun n c => n * 10 + Text.digitValue c) n =
      ds.foldl (fun n d => n * 10 + d) n := by
  induction ds generalizing n with
  | nil => rfl
  | cons d ds ih =>
      rw [List.map_cons, List.foldl_cons, List.foldl_cons, (isDigit_digitChar (h d (.head _))).2,
        ih fun d hd => h d (.tail _ hd)]

theorem takeWhile_isDigit {ds : List Nat} (h : ∀ d ∈ ds, d < 10) {rest : List Char}
    (hrest : ∀ c ∈ rest.head?, Text.isDigit c = false) :
    (ds.map digitChar ++ rest).takeWhile Text.isDigit = ds.map digitChar := by
  have hdigits : ∀ c ∈ ds.map digitChar, Text.isDigit c = true := by
    intro c hc
    obtain ⟨d, hd, rfl⟩ := List.mem_map.mp hc
    exact (isDigit_digitChar (h d hd)).1
  have hstop : rest.takeWhile Text.isDigit = [] := by
    cases rest with
    | nil => rfl
    | cons c rest => simp [hrest c rfl]
  rw [List.takeWhile_append_of_pos hdigits, hstop, List.append_nil]

theorem digits_append {ds : List Nat} (h : ∀ d ∈ ds, d < 10) (hne : ds ≠ []) {most : Nat}
    {rest : List Char} (hmost : ds.length ≤ most)
    (hrest : ds.length = most ∨ ∀ c ∈ rest.head?, Text.isDigit c = false) :
    digits most (ds.map digitChar ++ rest) = some (value ds, rest) := by
  have hread : ((ds.map digitChar ++ rest).take most).takeWhile Text.isDigit =
      ds.map digitChar := by
    rcases hrest with hfull | hrest
    · have htake : (ds.map digitChar ++ rest).take most = ds.map digitChar ++ [] := by
        simp [← hfull]
      rw [htake, takeWhile_isDigit h (by simp)]
    · have htake : (ds.map digitChar ++ rest).take most =
          ds.map digitChar ++ rest.take (most - ds.length) := by
        rw [List.take_append]
        simp [List.take_of_length_le, hmost]
      rw [htake, takeWhile_isDigit h]
      intro c hc
      rw [List.head?_take] at hc
      split at hc
      · cases hc
      · exact hrest c hc
  have hvalue := foldl_digitChar h 0
  rw [digits, hread]
  simp [hne, hvalue, value]

theorem digits_padded {width n most : Nat} {rest : List Char}
    (hmost : (paddedDigits width n).length ≤ most)
    (hrest : (paddedDigits width n).length = most ∨ ∀ c ∈ rest.head?, Text.isDigit c = false) :
    digits most (padded width n ++ rest) = some (n, rest) := by
  rw [padded_eq, digits_append (fun d => lt_of_mem_paddedDigits) (paddedDigits_ne_nil width n)
    hmost hrest, value_paddedDigits]

theorem exists_padded (width n : Nat) :
    ∃ d cs, d < 10 ∧ padded width n = digitChar d :: cs := by
  obtain ⟨d, ds, hds⟩ := List.exists_cons_of_ne_nil (paddedDigits_ne_nil width n)
  refine ⟨d, ds.map digitChar, lt_of_mem_paddedDigits (hds ▸ List.mem_cons_self), ?_⟩
  rw [padded_eq, hds, List.map_cons]

theorem dropBlanks_padded (width n : Nat) (rest : List Char) :
    Text.dropBlanks (padded width n ++ rest) = padded width n ++ rest := by
  have hall : ∀ d < 10, Text.isBlank (digitChar d) = false := by decide
  obtain ⟨d, cs, hd, hpadded⟩ := exists_padded width n
  rw [hpadded, List.cons_append, Text.dropBlanks, List.dropWhile_cons, hall d hd]
  rfl

/-! ## Parts -/

theorem short_padded {n : Nat} (h : n < 100) (rest : List Char) :
    short (padded 2 n ++ rest) = some (n, rest) := by
  have hlength := length_paddedDigits 2 (by decide) h
  rw [short, dropBlanks_padded, digits_padded hlength.le (.inl hlength)]

theorem mark_cons {c : Char} (h : Text.isBlank c = false) (rest : List Char) :
    mark c (c :: rest) = some ((), rest) := by
  simp [mark, Text.dropBlanks, h]

theorem year_yearText (y : Int) {rest : List Char}
    (hrest : ∀ c ∈ rest.head?, Text.isDigit c = false) :
    year (yearText y ++ rest) = some (y, rest) := by
  unfold yearText
  split
  next hplain =>
    have hfour : tenTo 4 = 10000 := rfl
    have hlength : (paddedDigits 4 y.toNat).length = 4 :=
      length_paddedDigits 4 (by decide) (by omega)
    have hdigits : digits 4 (padded 4 y.toNat ++ rest) = some (y.toNat, rest) :=
      digits_padded hlength.le (.inl hlength)
    have hself : (y.toNat : Int) = y := Int.toNat_of_nonneg hplain.1
    rw [year, dropBlanks_padded]
    obtain ⟨d, cs, hd, hpadded⟩ := exists_padded 4 y.toNat
    rw [hpadded, List.cons_append] at hdigits ⊢
    have hsign : ∀ d < 10, digitChar d ≠ '-' ∧ digitChar d ≠ '+' := by decide
    split
    next heq => exact absurd (List.cons.inj heq).1 (hsign d hd).1
    next heq => exact absurd (List.cons.inj heq).1 (hsign d hd).2
    next => simp [hdigits, hself]
  next hlong =>
    have hdigits : digits (padded 4 y.natAbs ++ rest).length (padded 4 y.natAbs ++ rest) =
        some (y.natAbs, rest) := by
      refine digits_padded ?_ (.inr hrest)
      simp [padded_eq]
    split
    next hneg =>
      have hself : -(y.natAbs : Int) = y := by omega
      have hblank : Text.dropBlanks ('-' :: (padded 4 y.natAbs ++ rest)) =
          '-' :: (padded 4 y.natAbs ++ rest) := rfl
      rw [List.cons_append, year, hblank]
      simp only [hdigits, Option.map_some, hself]
    next hpos =>
      have hself : (y.natAbs : Int) = y := by omega
      have hblank : Text.dropBlanks ('+' :: (padded 4 y.natAbs ++ rest)) =
          '+' :: (padded 4 y.natAbs ++ rest) := rfl
      rw [List.cons_append, year, hblank]
      simp only [hdigits, Option.map_some, hself]

theorem fraction_padded {width n : Nat} (hwidth : 0 < width ∧ width ≤ 9) (h : n < tenTo width)
    {rest : List Char} (hrest : ∀ c ∈ rest.head?, Text.isDigit c = false) :
    fraction ('.' :: padded width n ++ rest) = some (n * tenTo (9 - width), rest) := by
  have hlength := length_paddedDigits width hwidth.1 h
  have hdigits : ∀ d ∈ paddedDigits width n, d < 10 := fun d => lt_of_mem_paddedDigits
  have hvalue : ((paddedDigits width n).map digitChar).foldl
      (fun n c => n * 10 + Text.digitValue c) 0 = n := by
    rw [foldl_digitChar hdigits]
    exact value_paddedDigits width n
  have hcounted : ((paddedDigits width n).map digitChar).take 9 =
      (paddedDigits width n).map digitChar := by
    rw [List.take_of_length_le]
    simp [hlength, hwidth.2]
  rw [padded_eq, List.cons_append, fraction, takeWhile_isDigit hdigits hrest]
  simp [paddedDigits_ne_nil, hcounted, hvalue, hlength]

theorem fraction_fractionText {nano : Nat} (h : nano < nanosPerSecond) {rest : List Char}
    (hrest : ∀ c ∈ rest.head?, Text.isDigit c = false ∧ c ≠ '.') :
    fraction (fractionText nano ++ rest) = some (nano, rest) := by
  have hstop : ∀ c ∈ rest.head?, Text.isDigit c = false := fun c hc => (hrest c hc).1
  have hlimit : nanosPerSecond = 1000000000 := rfl
  unfold fractionText
  split
  next hzero =>
    rw [List.nil_append, hzero]
    cases rest with
    | nil => rfl
    | cons c rest =>
        have hpoint : c ≠ '.' := (hrest c rfl).2
        unfold fraction
        split
        next heq => exact absurd (List.cons.inj heq).1 hpoint
        next => rfl
  split
  next hmillis =>
    have hshort : tenTo 3 = 1000 := rfl
    have hrest : tenTo (9 - 3) = 1000000 := rfl
    have hself : nano / 1000000 * 1000000 = nano := by omega
    rw [fraction_padded (by decide) (by omega) hstop, hrest, hself]
  split
  next hmicros =>
    have hshort : tenTo 6 = 1000000 := rfl
    have hrest : tenTo (9 - 6) = 1000 := rfl
    have hself : nano / 1000 * 1000 = nano := by omega
    rw [fraction_padded (by decide) (by omega) hstop, hrest, hself]
  next =>
    have hrest : tenTo (9 - 9) = 1 := rfl
    rw [fraction_padded (by decide) h hstop, hrest, Nat.mul_one]

/-! ## Instants -/

theorem monthLength_le (year : Int) (month : Nat) : Date.monthLength year month ≤ 31 := by
  unfold Date.monthLength
  split
  · split <;> decide
  · split <;> decide

/-- The date exists, and the time of day is one. A leap second is the last of a minute. -/
structure IsRegular (i : Instant) : Prop where
  date : i.date.Valid
  second : i.second < 86400
  nano : i.nano < nanosPerSecond ∨ i.nano < 2 * nanosPerSecond ∧ i.second % 60 = 59

theorem bind_of_eq_some {α β : Type} {o : Option α} {a : α} (h : o = some a) {f : α → Option β} :
    o >>= f = f a := by
  rw [h]
  rfl

/-- A text in the form of the protocol is read part by part. -/
theorem ofChars?_parts (y : Int) {month day hour minute second nano : Nat}
    (hmonth : month < 100) (hday : day < 100) (hhour : hour < 100) (hminute : minute < 100)
    (hsecond : second < 100) (hnano : nano < nanosPerSecond) :
    ofChars? (yearText y ++ '-' :: (padded 2 month ++ '-' :: (padded 2 day ++ 'T' ::
      (padded 2 hour ++ ':' :: (padded 2 minute ++ ':' ::
        (padded 2 second ++ (fractionText nano ++ ['Z']))))))) =
      (ofParts? ⟨y, month, day⟩ hour minute second nano).bind (shift? · 0) := by
  have hyear (rest : List Char) : year (yearText y ++ '-' :: rest) = some (y, '-' :: rest) :=
    year_yearText y (by simp [Text.isDigit])
  have hdash (rest : List Char) : mark '-' ('-' :: rest) = some ((), rest) :=
    mark_cons (by decide) rest
  have hcolon (rest : List Char) : mark ':' (':' :: rest) = some ((), rest) :=
    mark_cons (by decide) rest
  have hfraction : fraction (fractionText nano ++ ['Z']) = some (nano, ['Z']) :=
    fraction_fractionText hnano (by simp [Text.isDigit])
  have hoffset : offset ['Z'] = some (0, []) := rfl
  refine (bind_of_eq_some (hyear _)).trans ?_
  refine (bind_of_eq_some (hdash _)).trans ?_
  refine (bind_of_eq_some (short_padded hmonth _)).trans ?_
  refine (bind_of_eq_some (hdash _)).trans ?_
  refine (bind_of_eq_some (short_padded hday _)).trans ?_
  refine (if_pos (Or.inl rfl)).trans ?_
  refine (bind_of_eq_some rfl).trans ?_
  refine (bind_of_eq_some (short_padded hhour _)).trans ?_
  refine (bind_of_eq_some (hcolon _)).trans ?_
  refine (bind_of_eq_some (short_padded hminute _)).trans ?_
  refine (bind_of_eq_some (hcolon _)).trans ?_
  refine (bind_of_eq_some (short_padded hsecond _)).trans ?_
  refine (bind_of_eq_some hfraction).trans ?_
  refine (bind_of_eq_some hoffset).trans ?_
  exact if_pos (by decide)

theorem shift?_zero {i : Instant} (h : i.second < 86400) : i.shift? 0 = some i := by
  have hsame : (i.second : Int) - 0 * 60 = i.second := by omega
  have hearly : ¬ (i.second : Int) < 0 := by omega
  have hlate : ¬ 86400 ≤ (i.second : Int) := by omega
  rw [shift?]
  simp only [hsame]
  rw [if_neg hearly, if_neg hlate, Int.toNat_natCast]

/-- A regular point in time is read back from its text. -/
theorem ofText?_wireText {i : Instant} (h : i.IsRegular) : ofText? i.wireText = some i := by
  obtain ⟨⟨year, month, day⟩, second, nano⟩ := i
  have hdate : Date.Valid ⟨year, month, day⟩ := h.date
  have hsecond : second < 86400 := h.second
  have hlimit : nanosPerSecond = 1000000000 := rfl
  obtain ⟨shown, hshown⟩ : ∃ shown, shown = second % 60 + nano / nanosPerSecond := ⟨_, rfl⟩
  -- A whole second of nanoseconds is the leap second.
  have hnano : shown < 60 ∧ shown = second % 60 ∧ nano % nanosPerSecond = nano ∨
      shown = 60 ∧ second % 60 = 59 ∧ nanosPerSecond + nano % nanosPerSecond = nano := by
    have hnano : nano < nanosPerSecond ∨ nano < 2 * nanosPerSecond ∧ second % 60 = 59 := h.nano
    rw [hlimit] at hnano hshown ⊢
    omega
  have hmonth : month < 100 ∧ day < 100 := by
    obtain ⟨-, -, -, hmonth, -, hday⟩ := hdate
    have hlength := monthLength_le year month
    simp only at hmonth hday
    omega
  have htext : (wireText ⟨⟨year, month, day⟩, second, nano⟩).toList =
      yearText year ++ '-' :: (padded 2 month ++ '-' :: (padded 2 day ++ 'T' ::
        (padded 2 (second / 3600) ++ ':' :: (padded 2 (second / 60 % 60) ++ ':' ::
          (padded 2 shown ++ (fractionText (nano % nanosPerSecond) ++ ['Z'])))))) := by
    simp [wireText, dateText, clockText, hshown]
  have hparts : ofParts? ⟨year, month, day⟩ (second / 3600) (second / 60 % 60) shown
      (nano % nanosPerSecond) = some ⟨⟨year, month, day⟩, second, nano⟩ := by
    have hbounds : second / 3600 < 24 ∧ second / 60 % 60 < 60 ∧ shown ≤ 60 := by omega
    rw [ofParts?, if_pos ⟨hdate, hbounds⟩]
    rcases hnano with ⟨hplain, hrest, hwhole⟩ | ⟨hsixty, hlast, hwhole⟩
    · rw [if_neg (by omega), hrest, hwhole]
      congr 2
      omega
    · rw [if_pos hsixty, hwhole]
      congr 2
      omega
  rw [ofText?, htext, ofChars?_parts year hmonth.1 hmonth.2 (by omega) (by omega) (by omega)
    (Nat.mod_lt _ (by decide)), hparts]
  exact shift?_zero hsecond

/-! ## What is read -/

theorem foldl_lt {cs : List Char} (h : ∀ c ∈ cs, Text.isDigit c = true) (n : Nat) :
    cs.foldl (fun n c => n * 10 + Text.digitValue c) n < (n + 1) * tenTo cs.length := by
  induction cs generalizing n with
  | nil =>
      have hone : tenTo 0 = 1 := rfl
      simp [hone]
  | cons c cs ih =>
      have hdigit : Text.digitValue c ≤ 9 := by
        have hc := h c (.head _)
        simp only [Text.isDigit, Bool.and_eq_true, decide_eq_true_eq] at hc
        have hhigh : c.toNat ≤ 0x39 := hc.2
        have hzero : '0'.toNat = 0x30 := rfl
        rw [Text.digitValue, hzero]
        omega
      have hrest := ih (fun c hc => h c (.tail _ hc)) (n * 10 + Text.digitValue c)
      have hten : tenTo 1 = 10 := rfl
      rw [List.foldl_cons, List.length_cons, Nat.add_comm cs.length, tenTo_add, hten]
      calc _ < (n * 10 + Text.digitValue c + 1) * tenTo cs.length := hrest
        _ ≤ ((n + 1) * 10) * tenTo cs.length := Nat.mul_le_mul_right _ (by omega)
        _ = (n + 1) * (10 * tenTo cs.length) := Nat.mul_assoc ..

theorem fraction_lt {text rest : List Char} {nano : Nat} (h : fraction text = some (nano, rest)) :
    nano < nanosPerSecond := by
  unfold fraction at h
  split at h
  next more =>
    simp only at h
    split at h
    · cases h
    next =>
      simp only [Option.some.injEq, Prod.mk.injEq] at h
      obtain ⟨rfl, -⟩ := h
      generalize hcounted : (more.takeWhile Text.isDigit).take 9 = counted
      have hlength : counted.length ≤ 9 := hcounted ▸ List.length_take_le 9 _
      have hdigits : ∀ c ∈ counted, Text.isDigit c = true := fun c hc =>
        List.mem_takeWhile_imp (List.mem_of_mem_take (hcounted ▸ hc))
      have hvalue := foldl_lt hdigits 0
      rw [Nat.zero_add, Nat.one_mul] at hvalue
      calc _ < tenTo counted.length * tenTo (9 - counted.length) :=
            Nat.mul_lt_mul_of_pos_right hvalue (tenTo_pos _)
        _ = tenTo 9 := by rw [← tenTo_add, Nat.add_sub_cancel' hlength]
  next =>
    obtain ⟨rfl, -⟩ : 0 = nano ∧ text = rest := by simpa using h
    decide

theorem isRegular_ofParts? {d : Date} {hour minute second nano : Nat} {i : Instant}
    (hnano : nano < nanosPerSecond) (h : ofParts? d hour minute second nano = some i) :
    i.IsRegular := by
  unfold ofParts? at h
  split at h
  next hbounds =>
    obtain ⟨hdate, hhour, hminute, hsecond⟩ := hbounds
    split at h
    · obtain rfl := Option.some.inj h
      exact ⟨hdate, by simp only; omega, .inr (by simp only; omega)⟩
    · obtain rfl := Option.some.inj h
      exact ⟨hdate, by simp only; omega, .inl hnano⟩
  next => cases h

theorem valid_of_checked {d d' : Date} (h : d.checked = some d') : d'.Valid := by
  unfold Date.checked at h
  split at h
  next hvalid => exact Option.some.inj h ▸ hvalid
  next => cases h

theorem IsRegular.shift? {i j : Instant} (hi : i.IsRegular) {minutes : Int}
    (hminutes : minutes.natAbs < 1440) (h : i.shift? minutes = some j) : j.IsRegular := by
  have hsecond := hi.second
  have hnano := hi.nano
  simp only [Instant.shift?] at h
  -- Whole minutes leave the second of the minute as it is.
  split at h
  · obtain ⟨d, hd, rfl⟩ := Option.map_eq_some_iff.mp h
    exact ⟨valid_of_checked hd, by simp only; omega, by simp only; omega⟩
  split at h
  · obtain ⟨d, hd, rfl⟩ := Option.map_eq_some_iff.mp h
    exact ⟨valid_of_checked hd, by simp only; omega, by simp only; omega⟩
  · obtain rfl := Option.some.inj h
    exact ⟨hi.date, by simp only; omega, by simp only; omega⟩

/-- Only regular points in time are read. -/
theorem isRegular_of_ofText? {text : String} {i : Instant} (h : ofText? text = some i) :
    i.IsRegular := by
  rw [ofText?, ofChars?] at h
  obtain ⟨⟨y, _⟩, -, h⟩ := Option.bind_eq_some_iff.mp h
  obtain ⟨_, -, h⟩ := Option.bind_eq_some_iff.mp h
  obtain ⟨⟨month, _⟩, -, h⟩ := Option.bind_eq_some_iff.mp h
  obtain ⟨_, -, h⟩ := Option.bind_eq_some_iff.mp h
  obtain ⟨⟨day, text⟩, -, h⟩ := Option.bind_eq_some_iff.mp h
  dsimp only at h
  -- The date and the time are parted by one character.
  split at h
  · split at h
    · obtain ⟨_, -, h⟩ := Option.bind_eq_some_iff.mp h
      obtain ⟨⟨hour, _⟩, -, h⟩ := Option.bind_eq_some_iff.mp h
      obtain ⟨_, -, h⟩ := Option.bind_eq_some_iff.mp h
      obtain ⟨⟨minute, _⟩, -, h⟩ := Option.bind_eq_some_iff.mp h
      obtain ⟨_, -, h⟩ := Option.bind_eq_some_iff.mp h
      obtain ⟨⟨second, _⟩, -, h⟩ := Option.bind_eq_some_iff.mp h
      obtain ⟨⟨nano, _⟩, hfraction, h⟩ := Option.bind_eq_some_iff.mp h
      obtain ⟨⟨minutes, _⟩, -, h⟩ := Option.bind_eq_some_iff.mp h
      dsimp only at h
      split at h
      next hend =>
        obtain ⟨j, hparts, hshift⟩ := Option.bind_eq_some_iff.mp h
        exact (isRegular_ofParts? (fraction_lt hfraction) hparts).shift? hend.2 hshift
      next => cases h
    · cases h
  · cases h

end TaskMonitor.Instant
