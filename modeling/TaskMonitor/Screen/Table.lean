import TaskMonitor.Screen.Pane

/-! # Tables -/

namespace TaskMonitor

/-! ## Columns -/

/-- A turn in which some columns grow alike, up to a width. -/
structure Growth where
  columns : List Nat
  upTo : Nat
  deriving DecidableEq, Repr

/-- Widths are counted in quarters of a cell while room is shared out. -/
def quarters : Nat := 4

/-- Lets columns grow in turns, as long as there is room for it, given in quarters. What is left is
the second part. -/
def growColumns (widths : List Nat) (room : Nat) : List Growth → List Nat × Nat
  | [] => (widths, room)
  | turn :: rest =>
    let wanted := turn.columns.foldr (fun i n => turn.upTo * quarters - widths.getD i 0 + n) 0
    let given := min wanted room
    let share := given / turn.columns.length
    let grown := turn.columns.foldl (fun ws i => ws.modify i (· + share)) widths
    growColumns grown (room - given) rest

/-- A number of quarters in whole cells, a half counted as one. -/
def wholeCells (n : Nat) : Nat := (n + quarters / 2) / quarters

/-- The columns of widths in quarters, one cell apart, by their first cells and widths. -/
def placeColumns (start : Nat) : List Nat → List (Nat × Nat)
  | [] => []
  | w :: rest =>
    let first := wholeCells start
    (first, wholeCells (start + w) - first) :: placeColumns (start + w + quarters) rest

structure ColumnPlan where
  count : Nat
  /-- In these turns, the columns get the least widths that they need. -/
  growth : List Growth
  /-- The column that takes what is left. -/
  filling : Nat
  deriving DecidableEq, Repr

def ColumnPlan.columns (p : ColumnPlan) (width : Nat) : List (Nat × Nat) :=
  let room := (width - (p.count - 1)) * quarters
  let (widths, left) := growColumns (.replicate p.count 0) room p.growth
  placeColumns 0 (widths.modify p.filling (· + left))

/-! ## Tables -/

structure TableCell where
  line : Line
  style : Style
  deriving DecidableEq, Repr

def TableCell.ofText (text : String) (style : Style) : TableCell :=
  ⟨(Line.linesOf text).headD (.ofSpans []), style⟩

structure Table where
  pane : Pane
  plan : ColumnPlan
  header : List TableCell
  headerStyle : Style
  rows : List (List TableCell)
  selected : Nat
  selectedStyle : Style

namespace Table

/-- How many rows are passed over, so that the selected one is among the `height` rows shown. -/
def firstRow (selected height : Nat) : Nat := selected + 1 - height

def drawCells (g : Grid) (r : Region) : List ((Nat × Nat) × TableCell) → Grid
  | [] => g
  | ((x, width), cell) :: rest =>
    let place : Region := ⟨r.x + x, r.y, width, r.height⟩
    drawCells ((g.restyle place cell.style).drawLine place cell.line) r rest

def drawRows (t : Table) (columns : List (Nat × Nat)) (g : Grid) (r : Region) (index : Nat) :
    List (List TableCell) → Grid
  | [] => g
  | row :: rest =>
    let place := r.row 0
    let g := drawCells g place (columns.zip row)
    let g := if index = t.selected then g.restyle place t.selectedStyle else g
    t.drawRows columns g { r with y := r.y + 1, height := r.height - 1 } (index + 1) rest

def draw (t : Table) (g : Grid) (r : Region) : Grid :=
  let g := t.pane.draw g r
  let inside := r.inner
  if inside.isEmpty then g
  else
    let columns := t.plan.columns inside.width
    let head := inside.row 0
    let g := drawCells (g.restyle head t.headerStyle) head (columns.zip t.header)
    let body : Region := { inside with y := inside.y + 1, height := inside.height - 1 }
    let first := firstRow t.selected body.height
    t.drawRows columns g body first ((t.rows.drop first).take body.height)

end Table

end TaskMonitor
