import TaskMonitor.Instant.Basic
import TaskMonitor.Number.Unsigned
import TaskMonitor.Text.Basic

/-! # Reading points in time

The form is a lenient variant of the internet date and time format. -/

namespace TaskMonitor.Instant

open Text

abbrev Reading (α : Type) := List Char → Option (α × List Char)

/-! ## Parts -/

def digits (most : Nat) : Reading Nat := fun text =>
  let read := (text.take most).takeWhile isDigit
  if read.isEmpty then none
  else some (read.foldl (fun n c => n * 10 + digitValue c) 0, text.drop read.length)

def short : Reading Nat := fun text => digits 2 (dropBlanks text)

def mark (c : Char) : Reading Unit := fun text =>
  match dropBlanks text with
  | d :: rest => if d = c then some ((), rest) else none
  | [] => none

/-- A year after blanks: at most four digits, or any number of them after a sign. -/
def year : Reading Int := fun text =>
  match dropBlanks text with
  | '-' :: rest => (digits rest.length rest).map fun (n, tail) => (-(n : Int), tail)
  | '+' :: rest => (digits rest.length rest).map fun (n, tail) => ((n : Int), tail)
  | rest => (digits 4 rest).map fun (n, tail) => ((n : Int), tail)

/-- A point and digits, of which the first nine count; or nothing. -/
def fraction : Reading Nat
  | '.' :: rest =>
    let read := rest.takeWhile isDigit
    if read.isEmpty then none
    else
      let counted := read.take 9
      some (counted.foldl (fun n c => n * 10 + digitValue c) 0 * tenTo (9 - counted.length),
        rest.drop read.length)
  | text => some (0, text)

def isUtc (a b c : Char) : Bool :=
  (a = 'U' || a = 'u') && (b = 'T' || b = 't') && (c = 'C' || c = 'c')

/-- Two digits of an hour, any colons and blanks, two digits of a minute. -/
def hourMinute : Reading Nat
  | a :: b :: rest =>
    match rest.dropWhile fun c => c = ':' || isBlank c with
    | c :: d :: tail =>
      if isDigit a && isDigit b && ('0' ≤ c && c ≤ '5') && isDigit d then
        some ((digitValue a * 10 + digitValue b) * 60 + digitValue c * 10 + digitValue d, tail)
      else none
    | _ => none
  | _ => none

def offset : Reading Int := fun text =>
  match dropBlanks text with
  | 'Z' :: rest => some (0, rest)
  | 'z' :: rest => some (0, rest)
  | '+' :: rest => (hourMinute rest).map fun (n, tail) => ((n : Int), tail)
  | '-' :: rest => (hourMinute rest).map fun (n, tail) => (-(n : Int), tail)
  | '\u2212' :: rest => (hourMinute rest).map fun (n, tail) => (-(n : Int), tail)
  | a :: b :: c :: rest => if isUtc a b c then some (0, rest) else none
  | _ => none

/-! ## The whole -/

def shift? (i : Instant) (minutes : Int) : Option Instant :=
  let second : Int := i.second - minutes * 60
  if second < 0 then i.date.previous?.map fun d => ⟨d, (second + 86400).toNat, i.nano⟩
  else if 86400 ≤ second then i.date.next?.map fun d => ⟨d, (second - 86400).toNat, i.nano⟩
  else some ⟨i.date, second.toNat, i.nano⟩

/-- A local time from its parts. The second 60 is a leap second after the second 59. -/
def ofParts? (d : Date) (hour minute second nano : Nat) : Option Instant :=
  if d.Valid ∧ hour < 24 ∧ minute < 60 ∧ second ≤ 60 then
    if second = 60 then some ⟨d, hour * 3600 + minute * 60 + 59, nanosPerSecond + nano⟩
    else some ⟨d, hour * 3600 + minute * 60 + second, nano⟩
  else none

/-- Date and time, parted by a letter or a blank, and the distance from the prime meridian, which
is less than a day. -/
def ofChars? (text : List Char) : Option Instant := do
  let (y, text) ← year text
  let ((), text) ← mark '-' text
  let (month, text) ← short text
  let ((), text) ← mark '-' text
  let (day, text) ← short text
  let text ← match text with
    | c :: rest => if c = 'T' ∨ c = 't' ∨ c = ' ' then some rest else none
    | [] => none
  let (hour, text) ← short text
  let ((), text) ← mark ':' text
  let (minute, text) ← short text
  let ((), text) ← mark ':' text
  let (second, text) ← short text
  let (nano, text) ← fraction text
  let (minutes, text) ← offset text
  if (dropBlanks text).isEmpty ∧ minutes.natAbs < 1440 then
    (ofParts? ⟨y, month, day⟩ hour minute second nano).bind (shift? · minutes)
  else none

def ofText? (text : String) : Option Instant := ofChars? text.toList

end TaskMonitor.Instant
