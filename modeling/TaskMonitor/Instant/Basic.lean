import TaskMonitor.Instant.Date

/-! # Points in time -/

namespace TaskMonitor

/-- A point in time, by date and time of day at the prime meridian. From a whole second on, the
nanoseconds count within a leap second that follows `second`. -/
structure Instant where
  date : Date
  second : Nat
  nano : Nat
  deriving DecidableEq, Repr

namespace Instant

def nanosPerSecond : Nat := 1000000000

/-! ## Texts -/

def padded (width n : Nat) : List Char :=
  let digits := Nat.toDigits 10 n
  List.replicate (width - digits.length) '0' ++ digits

/-- A year of four digits, or of at least four after a sign when it is not within 0 and 9999. -/
def yearText (year : Int) : List Char :=
  if 0 ≤ year ∧ year ≤ 9999 then padded 4 year.toNat
  else (if year < 0 then '-' else '+') :: padded 4 year.natAbs

def dateText (d : Date) : List Char :=
  yearText d.year ++ '-' :: padded 2 d.month ++ '-' :: padded 2 d.day

/-- Hours, minutes and seconds. A leap second has the number 60. -/
def clockText (i : Instant) : List Char :=
  let second := i.second % 60 + i.nano / nanosPerSecond
  padded 2 (i.second / 3600) ++ ':' :: padded 2 (i.second / 60 % 60) ++ ':' :: padded 2 second

/-- Nothing, or a point and three, six or nine digits: the fewest that are exact. -/
def fractionText (nano : Nat) : List Char :=
  if nano = 0 then []
  else if nano % 1000000 = 0 then '.' :: padded 3 (nano / 1000000)
  else if nano % 1000 = 0 then '.' :: padded 6 (nano / 1000)
  else '.' :: padded 9 nano

def wireText (i : Instant) : String :=
  String.ofList (dateText i.date ++ 'T' :: clockText i ++
    fractionText (i.nano % nanosPerSecond) ++ ['Z'])

def screenText (i : Instant) : String :=
  String.ofList (dateText i.date ++ ' ' :: clockText i)

/-! ## Differences -/

/-- The nanoseconds from the earlier to the later instant. A leap second counts when the later
instant has a later time of day than the one it follows. -/
def elapsed (later earlier : Instant) : Int :=
  let days := later.date.number - earlier.date.number
  let leap : Int :=
    if earlier.second < later.second ∧ nanosPerSecond ≤ earlier.nano then 1
    else if later.second < earlier.second ∧ nanosPerSecond ≤ later.nano then -1
    else 0
  (days * 86400 + later.second - earlier.second + leap) * nanosPerSecond + later.nano - earlier.nano

def secondsSince (later earlier : Instant) : Nat :=
  (elapsed later earlier / nanosPerSecond).toNat

end Instant

end TaskMonitor
