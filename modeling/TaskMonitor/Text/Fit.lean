import TaskMonitor.Text.Width

/-! # Texts that fit a number of columns -/

namespace TaskMonitor.Text

def ellipsis : List Char := ['.', '.', '.']

def columnsOf (width : Char → Nat) : List Char → Nat
  | [] => 0
  | c :: rest => width c + columnsOf width rest

/-- The longest beginning of a text that takes at most `room` columns. -/
def within (width : Char → Nat) (room : Nat) : List Char → List Char
  | [] => []
  | c :: rest => if width c ≤ room then c :: within width (room - width c) rest else []

/-- A text that takes more columns than there are is cut, and ends in an ellipsis. Fewer columns
than the ellipsis takes hold as many characters. -/
def fitBy (width : Char → Nat) (columns : Nat) (text : List Char) : List Char :=
  if columns < ellipsis.length then text.take columns
  else if columnsOf width text ≤ columns then text
  else within width (columns - ellipsis.length) text ++ ellipsis

def fit (columns : Nat) (text : String) : String :=
  String.ofList (fitBy width columns text.toList)

end TaskMonitor.Text
