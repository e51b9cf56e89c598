/-! # Characters and lines -/

namespace TaskMonitor.Text

/-- A set of characters as ranges of code points, first and last included, in ascending order. -/
abbrev CharSet := List (Nat × Nat)

def CharSet.has (s : CharSet) (c : Char) : Bool :=
  s.any fun (first, last) => first ≤ c.toNat && c.toNat ≤ last

/-! ## Kinds of characters -/

def isDigit (c : Char) : Bool := '0' ≤ c && c ≤ '9'

def digitValue (c : Char) : Nat := c.toNat - '0'.toNat

/-- The characters with the property White_Space. -/
def isBlank (c : Char) : Bool :=
  (0x09 ≤ c.val && c.val ≤ 0x0D) || c.val == 0x20 || c.val == 0x85 || c.val == 0xA0 ||
  c.val == 0x1680 || (0x2000 ≤ c.val && c.val ≤ 0x200A) || c.val == 0x2028 || c.val == 0x2029 ||
  c.val == 0x202F || c.val == 0x205F || c.val == 0x3000

def dropBlanks (text : List Char) : List Char :=
  text.dropWhile isBlank

/-- The control characters: two blocks of 32, and the one at 127. -/
def isControl (c : Char) : Bool :=
  c.val < 0x20 || (0x7F ≤ c.val && c.val < 0xA0)

/-! ## Lines -/

def withoutReturn (line : List Char) : List Char :=
  if line.getLast? = some '\r' then line.dropLast else line

/-- The lines of a text, with the beginning of the first one read, latest first. What follows the
last line feed is a line unless it is empty. -/
def linesFrom (read : List Char) : List Char → List (List Char)
  | [] => if read.isEmpty then [] else [read.reverse]
  | c :: rest =>
    if c = '\n' then withoutReturn read.reverse :: linesFrom [] rest
    else linesFrom (c :: read) rest

/-- The lines of a text. They end with a line feed, or with a carriage return and a line feed. -/
def lines (text : String) : List String := (linesFrom [] text.toList).map String.ofList

end TaskMonitor.Text
