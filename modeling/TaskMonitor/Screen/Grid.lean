import TaskMonitor.Screen.Region
import TaskMonitor.Screen.Style
import TaskMonitor.Text.ClusterWidth

/-! # Grids of cells -/

namespace TaskMonitor

/-- What one cell shows. A cluster of two columns is in the first of its two cells. -/
structure Cell where
  symbol : List Char
  style : Style
  deriving DecidableEq, Repr

def Cell.blank : Cell := ⟨[' '], .plain⟩

structure Grid where
  width : Nat
  height : Nat
  cells : Array Cell

namespace Grid

def blank (width height : Nat) : Grid := ⟨width, height, .replicate (width * height) .blank⟩

def region (g : Grid) : Region := ⟨0, 0, g.width, g.height⟩

def modify (g : Grid) (x y : Nat) (f : Cell → Cell) : Grid :=
  if x < g.width ∧ y < g.height then { g with cells := g.cells.modify (y * g.width + x) f } else g

def get? (g : Grid) (x y : Nat) : Option Cell :=
  if x < g.width then g.cells[y * g.width + x]? else none

def put (g : Grid) (x y : Nat) (symbol : List Char) (style : Style) : Grid :=
  g.modify x y fun c => ⟨symbol, style.layOn c.style⟩

def append (g : Grid) (x y : Nat) (symbol : List Char) (style : Style) : Grid :=
  g.modify x y fun c => ⟨c.symbol ++ symbol, style.layOn c.style⟩

def clear (g : Grid) (x y : Nat) : Grid := g.modify x y fun _ => .blank

def overRow (g : Grid) (x y count : Nat) (f : Grid → Nat → Nat → Grid) : Grid :=
  (List.range count).foldl (fun g i => f g (x + i) y) g

def overColumn (g : Grid) (x y count : Nat) (f : Grid → Nat → Nat → Grid) : Grid :=
  (List.range count).foldl (fun g i => f g x (y + i)) g

def restyle (g : Grid) (r : Region) (style : Style) : Grid :=
  (List.range r.height).foldl
    (fun g i => g.overRow r.x (r.y + i) r.width fun g x y =>
      g.modify x y fun c => ⟨c.symbol, style.layOn c.style⟩) g

/-! ## What is seen -/

/-- The cells of a row without those that a cluster of two columns hides, `skip` of which come
first. -/
def seen (skip : Nat) : List Cell → List Cell
  | [] => []
  | c :: rest =>
    match skip with
    | 0 => c :: seen (Text.textWidth c.symbol - 1) rest
    | skip + 1 => seen skip rest

abbrev Run := List Char × Style

def runs : List Cell → List Run
  | [] => []
  | c :: rest =>
    match runs rest with
    | (text, style) :: more =>
      if style = c.style then (c.symbol ++ text, style) :: more
      else (c.symbol, c.style) :: (text, style) :: more
    | [] => [(c.symbol, c.style)]

def trim : List Run → List Run
  | [] => []
  | [(text, style)] =>
    if style = .plain then
      let kept := (text.reverse.dropWhile (· = ' ')).reverse
      if kept.isEmpty then [] else [(kept, style)]
    else [(text, style)]
  | run :: rest => run :: trim rest

def rowCells (g : Grid) (y : Nat) : List Cell :=
  (g.cells.extract (y * g.width) (y * g.width + g.width)).toList

def rows (g : Grid) : List (List Run) :=
  (List.range g.height).map fun y => trim (runs (seen 0 (g.rowCells y)))

end Grid

end TaskMonitor
