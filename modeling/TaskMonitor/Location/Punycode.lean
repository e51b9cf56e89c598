/-! # Labels in ASCII

A label with other characters is written as its ASCII characters and a number in digits for each of
the others, in the order of their code points, that tells the character and its place. -/

namespace TaskMonitor.Punycode

def digit (d : Nat) : Char := if d < 26 then Char.ofNat (97 + d) else Char.ofNat (22 + d)

/-- The least value of the last digit at position `k`. -/
def threshold (k bias : Nat) : Nat :=
  if k ≤ bias then 1 else if bias + 26 ≤ k then 26 else k - bias

theorem threshold_pos (k bias : Nat) : 1 ≤ threshold k bias := by
  unfold threshold
  repeat' split
  all_goals omega

def number (bias k q : Nat) : List Char :=
  if q < threshold k bias then [digit q]
  else
    digit (threshold k bias + (q - threshold k bias) % (36 - threshold k bias)) ::
      number bias (k + 36) ((q - threshold k bias) / (36 - threshold k bias))
termination_by q
decreasing_by
  have := threshold_pos k bias
  have := Nat.div_le_self (q - threshold k bias) (36 - threshold k bias)
  omega

def settle (delta k : Nat) : Nat :=
  if 455 < delta then settle (delta / 35) (k + 36) else k + 36 * delta / (delta + 38)
termination_by delta
decreasing_by exact Nat.div_lt_self (by omega) (by decide)

/-- The bias after a number, of which `count` have been written. -/
def adapt (delta count : Nat) (first : Bool) : Nat :=
  let delta := if first then delta / 700 else delta / 2
  settle (delta + delta / count) 0

structure Progress where
  written : List Char
  delta : Nat
  bias : Nat
  count : Nat

def pass (basic m : Nat) (p : Progress) (c : Char) : Progress :=
  if c.toNat < m then { p with delta := p.delta + 1 }
  else if c.toNat = m then
    ⟨p.written ++ number p.bias 36 p.delta, 0, adapt p.delta (p.count + 1) (p.count = basic),
      p.count + 1⟩
  else p

def writeAll (label : List Char) (basic n : Nat) (p : Progress) : List Nat → List Char
  | [] => p.written
  | m :: rest =>
    let started := { p with delta := p.delta + (m - n) * (p.count + 1) }
    let passed := label.foldl (pass basic m) started
    writeAll label basic (m + 1) { passed with delta := passed.delta + 1 } rest

def insertSorted (x : Nat) : List Nat → List Nat
  | [] => [x]
  | y :: rest => if x < y then x :: y :: rest else if x = y then y :: rest
      else y :: insertSorted x rest

def encode (label : List Char) : List Char :=
  let basic := label.filter (·.toNat < 128)
  let others := (label.filter (128 ≤ ·.toNat)).foldl (fun s c => insertSorted c.toNat s) []
  let start := if basic.isEmpty then [] else basic ++ ['-']
  writeAll label basic.length 128 ⟨start, 0, 72, basic.length⟩ others

/-- A label as it is in ASCII, behind a mark if it is not. -/
def label (text : List Char) : List Char :=
  if text.all (·.toNat < 128) then text else "xn--".toList ++ encode text

end TaskMonitor.Punycode
