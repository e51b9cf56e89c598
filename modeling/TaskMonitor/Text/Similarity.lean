/-! # Similarity of words -/

namespace TaskMonitor.Text

abbrev Marked := List (Char × Bool)

/-- Marks the first letter `c` without a partner among those at positions from `low` on and below
`high`, counted from `at`. -/
def markLetter (c : Char) (low high position : Nat) : Marked → Option Marked
  | [] => none
  | (d, taken) :: rest =>
    if high ≤ position then none
    else if low ≤ position ∧ c = d ∧ !taken then some ((d, true) :: rest)
    else (markLetter c low high (position + 1) rest).map ((d, taken) :: ·)

/-- Looks for a partner for each letter of a word, from position `position` on, at most `range`
letters away. -/
def markLetters (range position : Nat) : List Char → Marked → Marked × Marked
  | [], other => ([], other)
  | c :: rest, other =>
    let (taken, other) :=
      match markLetter c (position - range) (position + range + 1) 0 other with
      | some marked => (true, marked)
      | none => (false, other)
    let (marked, other) := markLetters range (position + 1) rest other
    ((c, taken) :: marked, other)

def markedLetters (m : Marked) : List Char := (m.filter Prod.snd).map Prod.fst

structure Fraction where
  num : Nat
  den : Nat
  deriving DecidableEq, Repr

def Fraction.less (x y : Fraction) : Bool := x.num * y.den < y.num * x.den

/-- How similar two words are, from 0 to 1: the mean of the shares of letters with a partner in
either word, and of the share of those that have it in the same order. -/
def similarity (a b : List Char) : Fraction :=
  if a.isEmpty ∧ b.isEmpty then ⟨1, 1⟩
  else
    let range := max a.length b.length / 2 - 1
    let (left, right) := markLetters range 0 a (b.map (·, false))
    let first := markedLetters left
    let second := markedLetters right
    let matching := first.length
    let swapped := ((first.zip second).filter fun (x, y) => x ≠ y).length / 2
    if matching = 0 then ⟨0, 1⟩
    else
      ⟨matching * matching * b.length + matching * matching * a.length +
          (matching - swapped) * a.length * b.length,
        3 * a.length * b.length * matching⟩

/-- The candidate that is most similar to a word, the last one of several, if there is one that is
more similar than the threshold. -/
def mostSimilar? {α : Type} (threshold : Fraction) (word : List Char)
    (candidates : List (List Char × α)) : Option α :=
  (candidates.foldl
    (fun best (name, value) =>
      let s := similarity word name
      match best with
      | some (other, _) => if s.less other then best else some (s, value)
      | none => if threshold.less s then some (s, value) else none)
    none).map Prod.snd

end TaskMonitor.Text
