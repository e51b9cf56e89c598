import TaskMonitor.Json.Token
import TaskMonitor.Text.Utf8

/-! # Texts in JSON -/

namespace TaskMonitor.Json

def surrogatePair (lead trail : Nat) : Nat :=
  (lead - 0xD800) * 0x400 + (trail - 0xDC00) + 0x10000

/-- The bytes that the pieces of a quoted text stand for. A leading surrogate has to be followed by
a trailing one at once, and no trailing one stands alone. -/
def TextLiteral.bytes? : TextLiteral → Option (List UInt8)
  | [] => some []
  | .byte b :: rest => (bytes? rest).map (b :: ·)
  | .unit code :: rest =>
    if 0xD800 ≤ code ∧ code < 0xDC00 then
      match rest with
      | .unit trail :: more =>
        if 0xDC00 ≤ trail ∧ trail < 0xE000 then
          (bytes? more).map (String.utf8EncodeChar (Char.ofNat (surrogatePair code trail)) ++ ·)
        else none
      | _ => none
    else if 0xDC00 ≤ code ∧ code < 0xE000 then none
    else (bytes? rest).map (String.utf8EncodeChar (Char.ofNat code) ++ ·)

def TextLiteral.text? (literal : TextLiteral) : Option String :=
  literal.bytes?.bind Utf8.decode?

/-! ## Writing -/

def hexDigit (n : Nat) : Char := Nat.digitChar n

/-- What a character is written as between quotes: quotation mark and backslash after a backslash,
control characters below the blank by a letter or four hexadecimal digits, all others as they
are. -/
def quoteChar (c : Char) : List Char :=
  if c = '"' then ['\\', '"']
  else if c = '\\' then ['\\', '\\']
  else if c = '\x08' then ['\\', 'b']
  else if c = '\x0C' then ['\\', 'f']
  else if c = '\n' then ['\\', 'n']
  else if c = '\r' then ['\\', 'r']
  else if c = '\t' then ['\\', 't']
  else if c.toNat < 0x20 then
    ['\\', 'u', '0', '0', hexDigit (c.toNat / 16), hexDigit (c.toNat % 16)]
  else [c]

def quote (text : String) : List Char :=
  '"' :: text.toList.flatMap quoteChar ++ ['"']

end TaskMonitor.Json
