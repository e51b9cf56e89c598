/-! # UTF-8 -/

namespace TaskMonitor.Utf8

def replacement : Char := '\uFFFD'

def encode (text : List Char) : List UInt8 :=
  text.flatMap String.utf8EncodeChar

def decode? (bytes : List UInt8) : Option String :=
  String.fromUTF8? ⟨bytes.toArray⟩

/-! ## Reading with replacement -/

/-- A character some of whose bytes are still to come: its value so far, how many bytes are
missing, and the bounds of the next one. -/
structure Unfinished where
  value : Nat
  missing : Nat
  low : Nat
  high : Nat
  deriving DecidableEq, Repr

/-- The first byte of a character. Overlong forms, surrogates and values beyond the last code point
are excluded by the bounds of the second byte. -/
def start (byte : UInt8) : List Char × Option Unfinished :=
  let n := byte.toNat
  if n < 0x80 then ([Char.ofNat n], none)
  else if 0xC2 ≤ n ∧ n ≤ 0xDF then ([], some ⟨n - 0xC0, 1, 0x80, 0xBF⟩)
  else if n = 0xE0 then ([], some ⟨0, 2, 0xA0, 0xBF⟩)
  else if n = 0xED then ([], some ⟨13, 2, 0x80, 0x9F⟩)
  else if 0xE1 ≤ n ∧ n ≤ 0xEF then ([], some ⟨n - 0xE0, 2, 0x80, 0xBF⟩)
  else if n = 0xF0 then ([], some ⟨0, 3, 0x90, 0xBF⟩)
  else if n = 0xF4 then ([], some ⟨4, 3, 0x80, 0x8F⟩)
  else if 0xF1 ≤ n ∧ n ≤ 0xF3 then ([], some ⟨n - 0xF0, 3, 0x80, 0xBF⟩)
  else ([replacement], none)

/-- Reads one byte. A byte that cannot continue an unfinished character replaces what was read of
it and starts anew. -/
def step (pending : Option Unfinished) (byte : UInt8) : List Char × Option Unfinished :=
  match pending with
  | none => start byte
  | some u =>
    if u.low ≤ byte.toNat ∧ byte.toNat ≤ u.high then
      let value := u.value * 64 + (byte.toNat - 0x80)
      if u.missing ≤ 1 then ([Char.ofNat value], none)
      else ([], some ⟨value, u.missing - 1, 0x80, 0xBF⟩)
    else (replacement :: (start byte).1, (start byte).2)

def decodeFrom (pending : Option Unfinished) : List UInt8 → List Char
  | [] => if pending.isSome then [replacement] else []
  | byte :: rest => (step pending byte).1 ++ decodeFrom (step pending byte).2 rest

/-- The text of any bytes, each longest beginning of a character that breaks off replaced once. -/
def decodeLossy (bytes : List UInt8) : String :=
  String.ofList (decodeFrom none bytes)

end TaskMonitor.Utf8
