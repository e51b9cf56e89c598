import TaskMonitor.Screen.Pane
import TaskMonitor.Screen.Wrap

/-! # Paragraphs -/

namespace TaskMonitor

inductive Breaking where
  | cut
  /-- Blanks at the beginning of a line are dropped or not. -/
  | wrap (trim : Bool)
  deriving DecidableEq, Repr

structure Paragraph where
  lines : List Line
  style : Style
  pane : Option Pane
  breaking : Breaking
  /-- How many lines are passed over at the top. -/
  scroll : Nat
  deriving DecidableEq, Repr

namespace Paragraph

def ofLines (lines : List Line) : Paragraph := ⟨lines, .plain, none, .cut, 0⟩

def ofText (text : String) (style : Style) : Paragraph :=
  { ofLines (Line.linesOf text) with style := style }

def broken (p : Paragraph) (width : Nat) : List Glyphs :=
  p.lines.flatMap fun l =>
    let gs := l.glyphs .plain
    match p.breaking with
    | .cut => [cutGlyphs width width gs]
    | .wrap trim => wrapGlyphs width trim gs

/-- Shows the glyphs that take room, side by side. -/
def drawGlyphs (g : Grid) (x y : Nat) : Glyphs → Grid
  | [] => g
  | glyph :: rest =>
    if glyph.width = 0 then drawGlyphs g x y rest
    else drawGlyphs (g.put x y glyph.symbol glyph.style) (x + glyph.width) y rest

def drawLines (g : Grid) (x y : Nat) : List Glyphs → Grid
  | [] => g
  | line :: rest => drawLines (drawGlyphs g x y line) x (y + 1) rest

def window (p : Paragraph) (width height : Nat) : List Glyphs :=
  ((p.broken width).drop p.scroll).take height

def draw (p : Paragraph) (g : Grid) (r : Region) : Grid :=
  let g := g.restyle r p.style
  let (g, inside) := match p.pane with
    | some pane => (pane.draw g r, r.inner)
    | none => (g, r)
  if inside.isEmpty then g
  else drawLines g inside.x inside.y (p.window inside.width inside.height)

end Paragraph

end TaskMonitor
