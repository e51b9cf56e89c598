import TaskMonitor.Instant.Basic
import TaskMonitor.Number.Binary64

/-! # Ages and sizes, as shown -/

namespace TaskMonitor

/-- How long ago an instant was, in the largest unit of which at least one has passed. -/
def Instant.age (i now : Instant) : String :=
  let seconds := now.secondsSince i
  if seconds < 60 then toString seconds ++ "s ago"
  else if seconds < 3600 then toString (seconds / 60) ++ "m ago"
  else if seconds < 86400 then toString (seconds / 3600) ++ "h ago"
  else toString (seconds / 86400) ++ "d ago"

namespace Size

def kilobyte : Nat := 1024
def megabyte : Nat := 1024 * 1024

/-- A number of bytes in a unit. Both of them and what comes out are numbers of 53 bits. -/
def quotient? (bytes unit : Nat) : Option Binary64 := do
  (← Binary64.ofNat? bytes).div? (← Binary64.ofNat? unit)

/-- A number of bytes in tenths of a unit, a half rounded to the even neighbour. -/
def tenths (bytes unit : Nat) : Nat :=
  let x := (quotient? bytes unit).getD .zero
  divideHalfEven (10 * x.numerator) x.denominator

def tenthsText (n : Nat) : String := toString (n / 10) ++ "." ++ toString (n % 10)

def text (bytes : Nat) : String :=
  if bytes < kilobyte then toString bytes ++ " B"
  else if bytes < megabyte then tenthsText (tenths bytes kilobyte) ++ " KB"
  else tenthsText (tenths bytes megabyte) ++ " MB"

end Size

end TaskMonitor
