import TaskMonitor.Location.Percent
import TaskMonitor.Location.Punycode
import TaskMonitor.Number.Unsigned

/-! # Hosts -/

namespace TaskMonitor.Host

def splitAt (mark : Char) : List Char → List (List Char)
  | [] => [[]]
  | c :: rest =>
    if c = mark then [] :: splitAt mark rest
    else
      match splitAt mark rest with
      | first :: more => (c :: first) :: more
      | [] => [[c]]

def join (mark : Char) (pieces : List (List Char)) : List Char := [mark].intercalate pieces

def lower (c : Char) : Char := if 'A' ≤ c ∧ c ≤ 'Z' then Char.ofNat (c.toNat + 32) else c

/-! ## Addresses of four bytes -/

def radix (piece : List Char) : Nat × List Char :=
  match piece with
  | '0' :: 'x' :: rest => (16, rest)
  | '0' :: 'X' :: rest => (16, rest)
  | '0' :: d :: rest => (8, d :: rest)
  | other => (10, other)

/-- A number, decimal, or after a mark octal or hexadecimal. Nothing after the mark is zero. -/
def number? (piece : List Char) : Option Nat :=
  if piece.isEmpty then none
  else
    let (base, digits) := radix piece
    digits.foldlM (fun n c => (Percent.hexValue? c).bind fun v =>
      if v < base then some (n * base + v) else none) 0

def pieces (name : List Char) : List (List Char) :=
  let all := splitAt '.' name
  if all.getLast? = some [] ∧ 1 < all.length then all.dropLast else all

/-- A name whose last piece is a number is meant as an address. -/
def isNumeric (name : List Char) : Bool :=
  match (pieces name).getLast? with
  | none => false
  | some last =>
    (!last.isEmpty && last.all Text.isDigit) ||
      ((last.take 2 = ['0', 'x'] || last.take 2 = ['0', 'X']) && (number? last).isSome)

/-- An address of one to four numbers; the last one fills the bytes that are left. -/
def address? (name : List Char) : Option Nat := do
  let all := pieces name
  if 4 < all.length then none
  else
    let numbers ← all.mapM number?
    let last := numbers.getLast?.getD 0
    let front := numbers.dropLast
    let tailLimit := twoTo (8 * (5 - numbers.length))
    if front.all (· < 256) ∧ last < tailLimit then
      some (front.foldl (fun n v => n * 256 + v) 0 * tailLimit + last)
    else none

def addressText (n : Nat) : List Char :=
  join '.' ([n / 0x1000000, n / 0x10000 % 256, n / 256 % 256, n % 256].map (Nat.toDigits 10))

/-! ## Addresses of eight words -/

def word? (piece : List Char) : Option Nat :=
  if piece.isEmpty ∨ 4 < piece.length then none
  else piece.foldlM (fun n c => (Percent.hexValue? c).map fun v => n * 16 + v) 0

def byte? (piece : List Char) : Option Nat :=
  if piece.isEmpty ∨ !piece.all Text.isDigit ∨ (piece.head? = some '0' ∧ piece.length ≠ 1) then none
  else
    let n := piece.foldl (fun n c => n * 10 + Text.digitValue c) 0
    if n < 256 then some n else none

/-- The words of pieces. The last piece may be an address of four bytes, which is two words. -/
def words? : List (List Char) → Option (List Nat)
  | [] => some []
  | [last] =>
    if last.contains '.' then
      match (splitAt '.' last).mapM byte? with
      | some [a, b, c, d] => some [a * 256 + b, c * 256 + d]
      | _ => none
    else (word? last).map fun w => [w]
  | first :: rest => do return (← word? first) :: (← words? rest)

def splitGap : List Char → Option (List Char × List Char)
  | ':' :: ':' :: rest => some ([], rest)
  | c :: rest => (splitGap rest).map fun (front, back) => (c :: front, back)
  | [] => none

def side? (text : List Char) : Option (List Nat) :=
  if text.isEmpty then some [] else words? (splitAt ':' text)

/-- The eight words of an address. Two colons stand for one or more zeros. -/
def longAddress? (text : List Char) : Option (List Nat) :=
  match splitGap text with
  | none => (words? (splitAt ':' text)).bind fun ws => if ws.length = 8 then some ws else none
  | some (front, back) =>
    if front.contains '.' then none
    else do
      let before ← side? front
      let after ← side? back
      if before.length + after.length < 8 then
        some (before ++ List.replicate (8 - before.length - after.length) 0 ++ after)
      else none

def zeroRuns (words : List Nat) : List Nat :=
  (List.range words.length).map fun i => ((words.drop i).takeWhile (· = 0)).length

/-- The words in hexadecimal digits; the first longest run of several zeros is left out. -/
def longAddressText (words : List Nat) : List Char :=
  let hex (ws : List Nat) := join ':' (ws.map (Nat.toDigits 16))
  let runs := zeroRuns words
  let longest := runs.foldl max 0
  if longest < 2 then hex words
  else
    let start := (runs.findIdx? (· = longest)).getD 0
    hex (words.take start) ++ [':', ':'] ++ hex (words.drop (start + longest))

/-! ## Names -/

def isForbidden (c : Char) : Bool :=
  c.toNat ≤ 0x20 || c.toNat = 0x7F ||
    ['#', '%', '/', ':', '<', '>', '?', '@', '[', '\\', ']', '^', '|'].contains c

def bracketed? (text : List Char) : Option (List Char) :=
  match text with
  | '[' :: rest =>
    if rest.getLast? = some ']' then
      (longAddress? rest.dropLast).map fun ws => '[' :: longAddressText ws ++ [']']
    else none
  | _ => none

def ofText? (text : List Char) : Option (List Char) :=
  if text.head? = some '[' then bracketed? text
  else
    let decoded := (Utf8.decodeLossy (Percent.decode text)).toList.map lower
    let name := join '.' ((splitAt '.' decoded).map Punycode.label)
    if name.isEmpty ∨ name.any isForbidden then none
    else if isNumeric name then (address? name).map addressText
    else some name

/-- The host of a scheme that is not known: an address between brackets, or any text. -/
def ofAnyText? (text : List Char) : Option (List Char) :=
  if text.head? = some '[' then bracketed? text
  else if text.any fun c => isForbidden c && c ≠ '%' && 0x20 ≤ c.toNat && c.toNat ≠ 0x7F then none
  else some (Percent.encode [] text)

end TaskMonitor.Host
