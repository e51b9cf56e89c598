/-! # Styles -/

namespace TaskMonitor

inductive Colour where
  | cyan
  | green
  | yellow
  | red
  | blue
  | darkGray
  deriving DecidableEq, Repr

def Colour.name : Colour → String
  | cyan => "Cyan"
  | green => "Green"
  | yellow => "Yellow"
  | red => "Red"
  | blue => "Blue"
  | darkGray => "DarkGray"

/-- How a cell is shown. Without a colour it has the terminal's. -/
structure Style where
  colour : Option Colour
  bold : Bool
  reversed : Bool
  deriving DecidableEq, Repr

namespace Style

def plain : Style := ⟨none, false, false⟩

def coloured (c : Colour) : Style := ⟨some c, false, false⟩

def emphasized : Style := ⟨none, true, false⟩

def inverted : Style := ⟨none, false, true⟩

/-- Lays a style over another one: what it leaves open stays. -/
def layOn (above below : Style) : Style :=
  ⟨above.colour <|> below.colour, above.bold || below.bold, above.reversed || below.reversed⟩

def modifiers (s : Style) : List String :=
  (if s.bold then ["BOLD"] else []) ++ (if s.reversed then ["REVERSED"] else [])

def text (s : Style) : String :=
  let modifiers := " | ".intercalate s.modifiers
  " ".intercalate ((s.colour.map Colour.name).toList ++ if modifiers = "" then [] else [modifiers])

end Style

end TaskMonitor
