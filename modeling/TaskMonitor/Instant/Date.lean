/-! # Calendar dates -/

namespace TaskMonitor

/-- A date of the Gregorian calendar, extended to all years; the year 0 precedes the year 1. -/
structure Date where
  year : Int
  month : Nat
  day : Nat
  deriving DecidableEq, Repr

namespace Date

def isLeap (year : Int) : Bool :=
  year % 4 = 0 && (year % 100 ≠ 0 || year % 400 = 0)

def monthLength (year : Int) (month : Nat) : Nat :=
  if month = 2 then (if isLeap year then 29 else 28)
  else if month = 4 ∨ month = 6 ∨ month = 9 ∨ month = 11 then 30
  else 31

def leastYear : Int := -262143
def mostYear : Int := 262142

def Valid (d : Date) : Prop :=
  leastYear ≤ d.year ∧ d.year ≤ mostYear ∧ 1 ≤ d.month ∧ d.month ≤ 12 ∧
    1 ≤ d.day ∧ d.day ≤ monthLength d.year d.month

instance (d : Date) : Decidable d.Valid :=
  inferInstanceAs (Decidable (_ ∧ _ ∧ _ ∧ _ ∧ _ ∧ _))

def checked (d : Date) : Option Date :=
  if d.Valid then some d else none

def next? (d : Date) : Option Date :=
  checked <|
    if d.day < monthLength d.year d.month then { d with day := d.day + 1 }
    else if d.month < 12 then ⟨d.year, d.month + 1, 1⟩
    else ⟨d.year + 1, 1, 1⟩

def previous? (d : Date) : Option Date :=
  checked <|
    if 1 < d.day then { d with day := d.day - 1 }
    else if 1 < d.month then ⟨d.year, d.month - 1, monthLength d.year (d.month - 1)⟩
    else ⟨d.year - 1, 12, 31⟩

/-- The number of days since the first of March of the year 0. Years are counted from March, so
that the leap day comes last. -/
def number (d : Date) : Int :=
  let year := if d.month ≤ 2 then d.year - 1 else d.year
  let month : Int := if d.month ≤ 2 then d.month + 9 else d.month - 3
  365 * year + year / 4 - year / 100 + year / 400 + (153 * month + 2) / 5 + d.day - 1

end Date

end TaskMonitor
