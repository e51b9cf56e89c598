import TaskMonitor.Text.Basic

/-! # Whole numbers and their limits -/

namespace TaskMonitor

def twoTo (n : Nat) : Nat := Nat.pow 2 n

def tenTo (n : Nat) : Nat := Nat.pow 10 n

/-- Numbers below it have 64 bits. -/
def wordLimit : Nat := 0x10000000000000000

/-- Numbers below it have 16 bits. -/
def halfWordLimit : Nat := 0x10000

/-! ## Reading digits -/

inductive NumberError where
  | empty
  | notDigit
  | tooLarge
  deriving DecidableEq, Repr

def NumberError.message : NumberError → String
  | empty => "cannot parse integer from empty string"
  | notDigit => "invalid digit found in string"
  | tooLarge => "number too large to fit in target type"

namespace Unsigned

/-- Reads digits after a number, one by one, so that the first thing wrong decides. -/
def readDigits (n : Nat) : List Char → Except NumberError Nat
  | [] => .ok n
  | c :: rest =>
    if !Text.isDigit c then .error .notDigit
    else
      let m := n * 10 + Text.digitValue c
      if m < wordLimit then readDigits m rest else .error .tooLarge

def read (text : List Char) : Except NumberError Nat :=
  match text with
  | [] => .error .empty
  | ['+'] => .error .notDigit
  | '+' :: digits => readDigits 0 digits
  | digits => readDigits 0 digits

end Unsigned

end TaskMonitor
