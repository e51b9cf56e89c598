import TaskMonitor.Screen.Line

/-! # Breaking lines -/

namespace TaskMonitor

abbrev Glyphs := List Glyph

def Glyphs.width (gs : Glyphs) : Nat := gs.foldr (fun g n => g.width + n) 0

/-! ## Cutting -/

/-- The beginning of a line that fits into `room` columns. Glyphs that take more than the whole
`width` are left out. -/
def cutGlyphs (width room : Nat) : Glyphs → Glyphs
  | [] => []
  | g :: rest =>
    if width < g.width then cutGlyphs width room rest
    else if room < g.width then []
    else g :: cutGlyphs width (room - g.width) rest

/-! ## Wrapping -/

/-- Where wrapping a line has come to. All glyphs are latest first. -/
structure Wrapping where
  finished : List Glyphs
  line : Glyphs
  blanks : Glyphs
  word : Glyphs
  afterWord : Bool
  deriving Repr

namespace Wrapping

def empty : Wrapping := ⟨[], [], [], [], false⟩

/-- The word goes to the end of the line, after its blanks. At the beginning of a line blanks are
dropped if they are to be trimmed. -/
def takeWord (w : Wrapping) (trim : Bool) : Wrapping :=
  let blanks := if w.line.isEmpty ∧ trim then [] else w.blanks
  { w with line := w.word ++ blanks ++ w.line, blanks := [], word := [] }

/-- The first blanks that fit into the rest of a line that is finished are dropped. -/
def dropFitting (room : Nat) : Glyphs → Glyphs
  | [] => []
  | g :: rest => if g.width ≤ room then dropFitting (room - g.width) rest else g :: rest

def finishLine (w : Wrapping) (width : Nat) : Wrapping :=
  { w with
    finished := w.line :: w.finished
    line := []
    blanks := (dropFitting (width - w.line.width) w.blanks.reverse).reverse }

def add (w : Wrapping) (g : Glyph) : Wrapping :=
  if g.isBlank then { w with blanks := g :: w.blanks, afterWord := false }
  else { w with word := g :: w.word, afterWord := true }

/-- The word is complete, or the line is empty and what comes before the glyph fills it. -/
def wordEnds (w : Wrapping) (width : Nat) (trim : Bool) (g : Glyph) : Bool :=
  (w.afterWord && g.isBlank) ||
  (w.line.isEmpty &&
    if trim then
      width < w.word.width + g.width || width < w.blanks.width + g.width
    else width < w.word.width + w.blanks.width + g.width)

def lineEnds (w : Wrapping) (width : Nat) (g : Glyph) : Bool :=
  width ≤ w.line.width || (0 < g.width && width ≤ w.line.width + w.blanks.width + w.word.width)

/-- Reads a glyph. One that takes more than a line is left out, and so is a blank that ends a
line. -/
def step (width : Nat) (trim : Bool) (w : Wrapping) (g : Glyph) : Wrapping :=
  if width < g.width then w
  else
    let w := if w.wordEnds width trim g then w.takeWord trim else w
    if w.lineEnds width g then
      let w := w.finishLine width
      if g.isBlank && w.blanks.isEmpty then w else w.add g
    else w.add g

/-- The lines, when all is read. There is at least one, and blanks alone are an empty line. -/
def finish (w : Wrapping) (trim : Bool) : List Glyphs :=
  let finished :=
    if w.line.isEmpty ∧ w.word.isEmpty ∧ !w.blanks.isEmpty then [] :: w.finished else w.finished
  let last := (w.takeWord trim).line
  let all := if last.isEmpty then finished else last :: finished
  if all.isEmpty then [[]] else (all.map List.reverse).reverse

end Wrapping

def wrapGlyphs (width : Nat) (trim : Bool) (gs : Glyphs) : List Glyphs :=
  (gs.foldl (Wrapping.step width trim) .empty).finish trim

end TaskMonitor
