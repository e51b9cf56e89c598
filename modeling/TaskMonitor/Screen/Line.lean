import TaskMonitor.Screen.Grid
import TaskMonitor.Text.Basic

/-! # Lines of styled text -/

namespace TaskMonitor

structure Span where
  text : String
  style : Style
  deriving DecidableEq, Repr

def Span.plain (text : String) : Span := ⟨text, .plain⟩

/-- Spans one after the other, in a style of their own over that of the line. -/
structure Line where
  spans : List Span
  style : Style
  deriving DecidableEq, Repr

structure Glyph where
  symbol : List Char
  style : Style
  deriving DecidableEq, Repr

namespace Glyph

def width (g : Glyph) : Nat := Text.clusterWidth g.symbol

def isBlank (g : Glyph) : Bool :=
  g.symbol = ['\u200B'] || g.symbol.all Text.isBlank && g.symbol ≠ ['\u00A0']

end Glyph

namespace Span

def width (s : Span) : Nat := Text.textWidth s.text.toList

/-- The clusters of a span, without those that hold control characters. -/
def glyphs (s : Span) (below : Style) : List Glyph :=
  ((Text.clusters s.text.toList).filter fun c => !c.any Text.isControl).map
    fun c => ⟨c, s.style.layOn below⟩

end Span

namespace Line

def ofSpans (spans : List Span) : Line := ⟨spans, .plain⟩

/-- A text as one line: its lines are put side by side. -/
def ofText (text : String) (style : Style) : Line := ⟨(Text.lines text).map Span.plain, style⟩

/-- A text as lines. An empty one has one line. -/
def linesOf (text : String) : List Line :=
  if text = "" then [ofSpans []] else (Text.lines text).map fun l => ofSpans [.plain l]

def width (l : Line) : Nat := l.spans.foldr (fun s n => s.width + n) 0

def glyphs (l : Line) (below : Style) : List Glyph :=
  l.spans.flatMap fun s => s.glyphs (l.style.layOn below)

end Line

namespace Grid

/-- Shows glyphs from column `x` on as long as they end before `right`. A glyph without a width is
added to the one before it; so is any glyph that follows only such ones at the left edge. -/
def drawGlyphs (g : Grid) (left right y x : Nat) (first : Bool) : List Glyph → Grid
  | [] => g
  | glyph :: rest =>
    let next := x + glyph.width
    if right < next then g
    else
      let shown :=
        if first then g.put x y glyph.symbol glyph.style
        else if x = left then g.append x y glyph.symbol glyph.style
        else if glyph.width = 0 then g.append (x - 1) y glyph.symbol glyph.style
        else g.put x y glyph.symbol glyph.style
      let cleared := shown.overRow (x + 1) y (next - (x + 1)) clear
      cleared.drawGlyphs left right y next false rest

/-- Shows spans side by side. One without a width is left out. -/
def drawSpans (g : Grid) (r : Region) : List Span → Grid
  | [] => g
  | s :: rest =>
    if s.width = 0 then g.drawSpans r rest
    else if r.isEmpty then g
    else
      (g.drawGlyphs r.x r.right r.y r.x true (s.glyphs .plain)).drawSpans (r.indent s.width) rest

def drawLine (g : Grid) (r : Region) (l : Line) : Grid :=
  if r.isEmpty || l.width = 0 then g
  else (g.restyle { r with height := 1 } l.style).drawSpans r l.spans

end Grid

end TaskMonitor
