import TaskMonitor.Json.Token
import TaskMonitor.Number.Binary64
import TaskMonitor.Number.Unsigned

/-! # JSON numbers as written, and their values -/

namespace TaskMonitor.Json

/-- A number as written: its digits before the point, those after it if there is a point, and the
exponent with its sign if there is one. -/
structure Numeral where
  negative : Bool
  whole : List Nat
  fraction : Option (List Nat)
  exponent : Option (Bool × List Nat)
  deriving DecidableEq, Repr

namespace Numeral

/-! ## Reading the parts -/

def digits : List UInt8 → List Nat × List UInt8
  | [] => ([], [])
  | b :: rest =>
    if isDigit b then
      let (more, tail) := digits rest
      ((b.toNat - 0x30) :: more, tail)
    else ([], b :: rest)

def someDigits? (bytes : List UInt8) : Option (List Nat × List UInt8) :=
  let (read, rest) := digits bytes
  if read.isEmpty then none else some (read, rest)

/-- The digits before the point: no zero comes first unless it stands alone. -/
def whole? (bytes : List UInt8) : Option (List Nat × List UInt8) := do
  let (read, rest) ← someDigits? bytes
  if read.head? = some 0 ∧ read.length ≠ 1 then none else some (read, rest)

def fraction? : List UInt8 → Option (Option (List Nat) × List UInt8)
  | [] => some (none, [])
  | b :: rest =>
    if b = 0x2E then (someDigits? rest).map fun (read, tail) => (some read, tail)
    else some (none, b :: rest)

def exponent? : List UInt8 → Option (Option (Bool × List Nat) × List UInt8)
  | [] => some (none, [])
  | b :: rest =>
    if b = 0x65 ∨ b = 0x45 then
      let negative := rest.head? = some 0x2D
      let unsigned := if negative ∨ rest.head? = some 0x2B then rest.tail else rest
      (someDigits? unsigned).map fun (read, tail) => (some (negative, read), tail)
    else some (none, b :: rest)

def ofBytes? (bytes : List UInt8) : Option Numeral := do
  let negative := bytes.head? = some 0x2D
  let (whole, rest) ← whole? (if negative then bytes.tail else bytes)
  let (fraction, rest) ← fraction? rest
  let (exponent, rest) ← exponent? rest
  if rest.isEmpty then some ⟨negative, whole, fraction, exponent⟩ else none

/-! ## Values -/

def ofDigits (ds : List Nat) : Nat := ds.foldl (fun n d => n * 10 + d) 0

/-- Takes digits as long as the number has 64 bits. -/
def collect (n : Nat) : List Nat → Nat × List Nat
  | [] => (n, [])
  | d :: ds => if n * 10 + d < wordLimit then collect (n * 10 + d) ds else (n, d :: ds)

def powerOfTen (k : Nat) : Binary64 := (Binary64.ofNat? (tenTo k)).getD .zero

/-- `x * 10 ^ exponent`, in one multiplication or division where the power is a number of its own,
else in steps of `10 ^ 308`. None beyond the largest number. -/
def scale? (x : Binary64) (exponent : Int) : Option Binary64 :=
  if 0 ≤ exponent then
    if exponent ≤ 308 then x.mul? (powerOfTen exponent.toNat)
    else if x.mantissa = 0 then some x else none
  else if -308 ≤ exponent then x.div? (powerOfTen (-exponent).toNat)
  else if x.mantissa = 0 then some x
  else (x.div? (powerOfTen 308)).bind fun y => scale? y (exponent + 308)
termination_by (-exponent).toNat

def exponentLimit : Nat := 0x80000000

/-- The magnitude of a number that is not read as an integer. It is not the nearest one always:
its leading digits are collected as an integer of 64 bits, rounded, and scaled. Digits after
those are dropped, and dropped digits before the point count as powers of ten. An exponent beyond
the limit makes the number zero or too large. -/
def magnitude? (n : Numeral) : Option Binary64 :=
  let fraction := n.fraction.getD []
  let (leading, dropped) := collect 0 n.whole
  let (significand, unread) := collect leading fraction
  let shift : Int := (dropped.length : Int) - ((fraction.length : Int) - unread.length)
  let (negative, exponent) := match n.exponent with
    | some (negative, ds) => (negative, ofDigits ds)
    | none => (false, 0)
  if exponent < exponentLimit then
    (Binary64.ofNat? significand).bind fun x =>
      scale? x (if negative then shift - exponent else shift + exponent)
  else if negative ∨ significand = 0 then some .zero
  else none

/-- The integer that a number without point and exponent is read as: one of 64 bits, signed or not.
Minus zero is none. -/
def integer? (n : Numeral) : Option Int :=
  if n.fraction.isSome ∨ n.exponent.isSome then none
  else
    let v := ofDigits n.whole
    if n.negative then (if 0 < v ∧ v ≤ wordLimit / 2 then some (-v) else none)
    else if v < wordLimit then some v else none

end Numeral

end TaskMonitor.Json
