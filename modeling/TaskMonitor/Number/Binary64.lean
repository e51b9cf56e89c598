import TaskMonitor.Number.Unsigned

/-! # Binary floating-point numbers of 64 bits -/

namespace TaskMonitor

/-- The quotient rounded to the nearest whole number, a half to the even neighbour. -/
def divideHalfEven (num den : Nat) : Nat :=
  let quotient := num / den
  let twice := 2 * (num % den)
  if twice < den then quotient
  else if den < twice then quotient + 1
  else if quotient % 2 = 0 then quotient else quotient + 1

/-- A magnitude `mantissa * 2 ^ exponent` with at most 53 bits. A mantissa of fewer bits occurs
with the least exponent only. -/
structure Binary64 where
  mantissa : Nat
  exponent : Int
  deriving DecidableEq, Repr

namespace Binary64

def zero : Binary64 := ⟨0, -1074⟩

def leastLong : Nat := 0x10000000000000

def numerator (x : Binary64) : Nat := x.mantissa * twoTo x.exponent.toNat

def denominator (x : Binary64) : Nat := twoTo (-x.exponent).toNat

/-- The exponent of the last bit that a number near `num / den` can hold. -/
def lastBit (num den : Nat) : Int :=
  let guess : Int := (num.log2 : Int) - (den.log2 : Int)
  let top :=
    if den * twoTo guess.toNat ≤ num * twoTo (-guess).toNat then guess else guess - 1
  max (top - 52) (-1074)

/-- The nearest number to `num / den`, a tie going to the even mantissa; none beyond the largest. -/
def nearest? (num den : Nat) : Option Binary64 :=
  if num = 0 then some zero
  else
    let last := lastBit num den
    let mantissa := divideHalfEven (num * twoTo (-last).toNat) (den * twoTo last.toNat)
    let rounded : Binary64 :=
      if mantissa = 2 * leastLong then ⟨leastLong, last + 1⟩ else ⟨mantissa, last⟩
    if rounded.exponent ≤ 971 then some rounded else none

def ofNat? (n : Nat) : Option Binary64 := nearest? n 1

def mul? (x y : Binary64) : Option Binary64 :=
  nearest? (x.numerator * y.numerator) (x.denominator * y.denominator)

def div? (x y : Binary64) : Option Binary64 :=
  nearest? (x.numerator * y.denominator) (x.denominator * y.numerator)

/-! ## The shortest decimal that reads back -/

structure Decimal where
  digits : Nat
  exponent : Int
  deriving DecidableEq, Repr

def digitCount (n : Nat) : Nat := (Nat.toDigits 10 n).length

def leadingExponent (num den : Nat) : Int :=
  if den ≤ num then (digitCount (num / den) : Int) - 1
  else -(digitCount ((den - 1) / num) : Int)

/-- Whether `digits * 10 ^ exponent` is read back as `x`: it lies between the midpoints to the
neighbours of `x`, or on one of them when the mantissa is even. -/
def readsBack (x : Binary64) (d : Decimal) : Bool :=
  let scale := d.digits * tenTo d.exponent.toNat * twoTo (2 - x.exponent).toNat
  let unit := tenTo (-d.exponent).toNat * twoTo (x.exponent - 2).toNat
  let below := if x.mantissa = leastLong ∧ -1074 < x.exponent then 1 else 2
  let low := (4 * x.mantissa - below) * unit
  let high := (4 * x.mantissa + 2) * unit
  if x.mantissa % 2 = 0 then low ≤ scale && scale ≤ high else low < scale && scale < high

/-- The nearer of the two neighbours of `num / den` among the multiples of `10 ^ exponent`. -/
def candidates (x : Binary64) (exponent : Int) : List Decimal :=
  let num := x.numerator * tenTo (-exponent).toNat
  let den := x.denominator * tenTo exponent.toNat
  let near := divideHalfEven num den
  let floor := num / den
  let other := if near = floor then floor + 1 else floor
  [⟨near, exponent⟩, ⟨other, exponent⟩]

/-- The decimal of the fewest digits that reads back, tried from `count` digits on, the nearer one
of two. Seventeen digits always read back. -/
def shortestFrom (x : Binary64) (leading : Int) (count : Nat) : Decimal :=
  let exponent := leading - (count : Int) + 1
  match (candidates x exponent).find? (readsBack x) with
  | some d => d
  | none => if count < 17 then shortestFrom x leading (count + 1) else ⟨0, 0⟩
termination_by 17 - count

def shortest (x : Binary64) : Decimal :=
  if x.mantissa = 0 then ⟨0, 0⟩
  else shortestFrom x (leadingExponent x.numerator x.denominator) 1

end Binary64

end TaskMonitor
