import TaskMonitor.Screen.Line

/-! # Bordered panes -/

namespace TaskMonitor

structure Pane where
  title : Option Line
  titleStyle : Style
  borderStyle : Style
  deriving DecidableEq, Repr

namespace Pane

def untitled : Pane := ⟨none, .plain, .plain⟩

def titled (title : String) : Pane := { untitled with title := some (.ofText title .plain) }

/-- The sides, and over them the corners. The upper left one is on top. -/
def drawBorder (p : Pane) (g : Grid) (r : Region) : Grid :=
  let side (c : Char) (g : Grid) (x y : Nat) : Grid := g.put x y [c] p.borderStyle
  let right := r.right - 1
  let bottom := r.bottom - 1
  let g := g.overColumn r.x r.y r.height (side '│')
  let g := g.overRow r.x r.y r.width (side '─')
  let g := g.overColumn right r.y r.height (side '│')
  let g := g.overRow r.x bottom r.width (side '─')
  let g := side '┘' g right bottom
  let g := side '┐' g right r.y
  let g := side '└' g r.x bottom
  side '┌' g r.x r.y

def drawTitle (p : Pane) (g : Grid) (r : Region) : Grid :=
  match p.title with
  | none => g
  | some title =>
    let room := r.width - 2
    let place : Region := ⟨r.x + 1, r.y, min title.width room, 1⟩
    if room = 0 then g else (g.restyle place p.titleStyle).drawLine place title

def draw (p : Pane) (g : Grid) (r : Region) : Grid :=
  if r.isEmpty then g else p.drawTitle (p.drawBorder g r) r

end Pane

end TaskMonitor
