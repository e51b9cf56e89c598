import TaskMonitor.Text.Basic
import TaskMonitor.Text.Utf8

/-! # Percent-encoding -/

namespace TaskMonitor.Percent

def hexDigit (n : Nat) : Char := if n < 10 then Nat.digitChar n else Char.ofNat (n + 55)

def escape (byte : UInt8) : List Char :=
  ['%', hexDigit (byte.toNat / 16), hexDigit (byte.toNat % 16)]

/-- Characters that are escaped everywhere: control characters and all beyond ASCII. -/
def isUnsafe (c : Char) : Bool := c.toNat < 0x20 || 0x7F ≤ c.toNat

/-- Writes the characters that are unsafe, or among those given, by the bytes of their UTF-8
form. -/
def encode (also : List Char) (text : List Char) : List Char :=
  text.flatMap fun c =>
    if isUnsafe c || also.contains c then (String.utf8EncodeChar c).flatMap escape else [c]

def fragmentSet : List Char := [' ', '"', '<', '>', '`']
def pathSet : List Char := fragmentSet ++ ['#', '?', '\x7b', '\x7d']
def querySet : List Char := [' ', '"', '#', '<', '>']

def hexValue? (c : Char) : Option Nat :=
  if Text.isDigit c then some (Text.digitValue c)
  else if 'a' ≤ c ∧ c ≤ 'f' then some (c.toNat - 87)
  else if 'A' ≤ c ∧ c ≤ 'F' then some (c.toNat - 55)
  else none

/-- The bytes that a text stands for, escaped or not. A percent sign that begins no escape stands
for itself. -/
def decode : List Char → List UInt8
  | [] => []
  | '%' :: a :: b :: rest =>
    match hexValue? a, hexValue? b with
    | some high, some low => UInt8.ofNat (high * 16 + low) :: decode rest
    | _, _ => 0x25 :: decode (a :: b :: rest)
  | c :: rest => String.utf8EncodeChar c ++ decode rest

end TaskMonitor.Percent
