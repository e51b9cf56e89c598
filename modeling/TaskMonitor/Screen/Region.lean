/-! # Regions of a screen -/

namespace TaskMonitor

structure Region where
  x : Nat
  y : Nat
  width : Nat
  height : Nat
  deriving DecidableEq, Repr

namespace Region

def right (r : Region) : Nat := r.x + r.width

def bottom (r : Region) : Nat := r.y + r.height

def isEmpty (r : Region) : Bool := r.width = 0 || r.height = 0

def inner (r : Region) : Region :=
  ⟨min (r.x + 1) r.right, min (r.y + 1) r.bottom, r.width - 2, r.height - 2⟩

def indent (r : Region) (columns : Nat) : Region :=
  { r with x := min (r.x + columns) r.right, width := r.width - columns }

def row (r : Region) (i : Nat) : Region := ⟨r.x, r.y + i, r.width, 1⟩

/-! ## Dividing -/

/-- Three regions one above the other. When there are too few rows, the last one gets its rows
first and then the first one; the middle one gets what is left. -/
def stack (r : Region) (top bottom : Nat) : Region × Region × Region :=
  let last := min bottom r.height
  let first := min top (r.height - last)
  let middle := r.height - last - first
  (⟨r.x, r.y, r.width, first⟩, ⟨r.x, r.y + first, r.width, middle⟩,
    ⟨r.x, r.y + first + middle, r.width, last⟩)

end Region

end TaskMonitor
