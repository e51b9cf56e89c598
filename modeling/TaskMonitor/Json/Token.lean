/-! # JSON tokens -/

namespace TaskMonitor.Json

/-- A piece of a quoted text: a byte that stands for itself or was escaped by one letter, or a code
unit written with four hexadecimal digits. -/
inductive TextPiece where
  | byte (value : UInt8)
  | unit (code : Nat)
  deriving DecidableEq, Repr

abbrev TextLiteral := List TextPiece

inductive Token where
  | openObject
  | closeObject
  | openArray
  | closeArray
  | comma
  | colon
  | text (literal : TextLiteral)
  | number (bytes : List UInt8)
  | word (bytes : List UInt8)
  deriving DecidableEq, Repr

/-! ## Bytes -/

def isDigit (b : UInt8) : Bool := 0x30 ≤ b && b ≤ 0x39

def isNumberByte (b : UInt8) : Bool :=
  isDigit b || b == 0x2B || b == 0x2D || b == 0x2E || b == 0x45 || b == 0x65

def isWordByte (b : UInt8) : Bool := 0x61 ≤ b && b ≤ 0x7A

def isSpace (b : UInt8) : Bool := b == 0x20 || b == 0x09 || b == 0x0A || b == 0x0D

def hexValue? (b : UInt8) : Option Nat :=
  if isDigit b then some (b.toNat - 0x30)
  else if 0x61 ≤ b && b ≤ 0x66 then some (b.toNat - 0x57)
  else if 0x41 ≤ b && b ≤ 0x46 then some (b.toNat - 0x37)
  else none

def escaped? (b : UInt8) : Option UInt8 :=
  if b == 0x22 || b == 0x5C || b == 0x2F then some b
  else if b == 0x62 then some 0x08
  else if b == 0x66 then some 0x0C
  else if b == 0x6E then some 0x0A
  else if b == 0x72 then some 0x0D
  else if b == 0x74 then some 0x09
  else none

/-! ## Scanning -/

/-- The token that is being read, its pieces latest first. -/
inductive Scan where
  | idle
  | text (read : List TextPiece)
  | escape (read : List TextPiece)
  | unit (read : List TextPiece) (code missing : Nat)
  | number (read : List UInt8)
  | word (read : List UInt8)
  deriving DecidableEq, Repr

structure Scanner where
  tokens : List Token
  scan : Scan
  deriving DecidableEq, Repr

namespace Scanner

def empty : Scanner := ⟨[], .idle⟩

def idleStep (tokens : List Token) (b : UInt8) : Option Scanner :=
  if isSpace b then some ⟨tokens, .idle⟩
  else if b == 0x7B then some ⟨.openObject :: tokens, .idle⟩
  else if b == 0x7D then some ⟨.closeObject :: tokens, .idle⟩
  else if b == 0x5B then some ⟨.openArray :: tokens, .idle⟩
  else if b == 0x5D then some ⟨.closeArray :: tokens, .idle⟩
  else if b == 0x2C then some ⟨.comma :: tokens, .idle⟩
  else if b == 0x3A then some ⟨.colon :: tokens, .idle⟩
  else if b == 0x22 then some ⟨tokens, .text []⟩
  else if isDigit b || b == 0x2D then some ⟨tokens, .number [b]⟩
  else if isWordByte b then some ⟨tokens, .word [b]⟩
  else none

/-- Reads one byte. A number or a word lasts as long as its bytes do; a control character inside
quotes, an unknown escape or a byte that begins no token is refused. -/
def step (s : Scanner) (b : UInt8) : Option Scanner :=
  match s.scan with
  | .idle => idleStep s.tokens b
  | .text read =>
    if b == 0x22 then some ⟨.text read.reverse :: s.tokens, .idle⟩
    else if b == 0x5C then some ⟨s.tokens, .escape read⟩
    else if b < 0x20 then none
    else some ⟨s.tokens, .text (.byte b :: read)⟩
  | .escape read =>
    if b == 0x75 then some ⟨s.tokens, .unit read 0 4⟩
    else (escaped? b).map fun e => ⟨s.tokens, .text (.byte e :: read)⟩
  | .unit read code missing =>
    (hexValue? b).map fun v =>
      if missing ≤ 1 then ⟨s.tokens, .text (.unit (code * 16 + v) :: read)⟩
      else ⟨s.tokens, .unit read (code * 16 + v) (missing - 1)⟩
  | .number read =>
    if isNumberByte b then some ⟨s.tokens, .number (b :: read)⟩
    else idleStep (.number read.reverse :: s.tokens) b
  | .word read =>
    if isWordByte b then some ⟨s.tokens, .word (b :: read)⟩
    else idleStep (.word read.reverse :: s.tokens) b

def finish (s : Scanner) : Option (List Token) :=
  match s.scan with
  | .idle => some s.tokens.reverse
  | .number read => some (.number read.reverse :: s.tokens).reverse
  | .word read => some (.word read.reverse :: s.tokens).reverse
  | _ => none

end Scanner

def tokens? (bytes : List UInt8) : Option (List Token) :=
  (bytes.foldlM Scanner.step Scanner.empty).bind Scanner.finish

end TaskMonitor.Json
