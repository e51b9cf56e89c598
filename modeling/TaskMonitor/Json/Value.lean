import TaskMonitor.Json.Tree
import TaskMonitor.Json.Text

/-! # JSON values -/

namespace TaskMonitor.Json

/-- A value. Integers of 64 bits, signed or not, are exact; any other number has a sign and a
binary floating-point magnitude. The members of an object have different keys and keep their
order. -/
inductive Value where
  | null
  | bool (value : Bool)
  | integer (value : Int)
  | real (negative : Bool) (magnitude : Binary64)
  | text (value : String)
  | array (items : List Value)
  | object (members : List (String × Value))
  deriving Repr, Inhabited

abbrev Members := List (String × Value)

/-- A new key comes last; a known one keeps its place and takes the new value. -/
def Members.insert (members : Members) (key : String) (value : Value) : Members :=
  if members.any (·.1 = key) then members.map fun m => if m.1 = key then (key, value) else m
  else members ++ [(key, value)]

namespace Value

/-! ## Reading -/

def ofNumeral? (n : Numeral) : Option Value :=
  match n.integer? with
  | some i => some (.integer i)
  | none => n.magnitude?.map (.real n.negative)

mutual

/-- The value of a document in which containers may still be nested `room` deep: every text has to
consist of characters, and every number has to have a value. -/
def ofTree? (room : Nat) : Tree → Option Value
  | .null => some .null
  | .bool b => some (.bool b)
  | .number n => ofNumeral? n
  | .text literal => literal.text?.map .text
  | .array items =>
    if room = 0 then none else (ofItems? (room - 1) items).map .array
  | .object members =>
    if room = 0 then none else (ofMembers? (room - 1) [] members).map .object

def ofItems? (room : Nat) : List Tree → Option (List Value)
  | [] => some []
  | item :: rest => do
    let value ← ofTree? room item
    let values ← ofItems? room rest
    return value :: values

def ofMembers? (room : Nat) (read : Members) : List (TextLiteral × Tree) → Option Members
  | [] => some read
  | (key, item) :: rest => do
    let key ← key.text?
    let value ← ofTree? room item
    ofMembers? room (read.insert key value) rest

end

/-! ## Writing -/

structure RealLayout where
  /-- The exponents of the leading digit for which no power of ten is written. -/
  leastPlain : Int
  mostPlain : Int
  pointZero : Bool
  plusSign : Bool

/-- Plain from `0.00001` to below `10 ^ 16`, whole numbers with `.0`, exponents signed. -/
def realLayout : RealLayout := ⟨-5, 15, true, true⟩

/-- The digits of `d`, its last zeros counted as powers of ten. -/
def realText (layout : RealLayout) (d : Binary64.Decimal) : List Char :=
  let digits := Nat.toDigits 10 d.digits
  let leading := d.exponent + digits.length - 1
  if layout.leastPlain ≤ leading ∧ leading ≤ layout.mostPlain then
    if 0 ≤ d.exponent then
      digits ++ List.replicate d.exponent.toNat '0' ++
        (if layout.pointZero then ['.', '0'] else [])
    else if 0 ≤ leading then
      digits.take (leading + 1).toNat ++ '.' :: digits.drop (leading + 1).toNat
    else '0' :: '.' :: List.replicate (-leading - 1).toNat '0' ++ digits
  else
    let mantissa := match digits with
      | first :: second :: more => first :: '.' :: second :: more
      | short => short
    let sign := if leading < 0 then ['-'] else if layout.plusSign then ['+'] else []
    mantissa ++ 'e' :: sign ++ Nat.toDigits 10 leading.natAbs

def withoutZeros (d : Binary64.Decimal) : Binary64.Decimal :=
  if h : 0 < d.digits ∧ d.digits % 10 = 0 then withoutZeros ⟨d.digits / 10, d.exponent + 1⟩ else d
termination_by d.digits
decreasing_by exact Nat.div_lt_self h.1 (by decide)

def integerText (i : Int) : List Char :=
  if i < 0 then '-' :: Nat.toDigits 10 i.natAbs else Nat.toDigits 10 i.natAbs

mutual

def chars : Value → List Char
  | .null => ['n', 'u', 'l', 'l']
  | .bool true => ['t', 'r', 'u', 'e']
  | .bool false => ['f', 'a', 'l', 's', 'e']
  | .integer i => integerText i
  | .real negative magnitude =>
    (if negative then ['-'] else []) ++ realText realLayout (withoutZeros magnitude.shortest)
  | .text s => quote s
  | .array [] => ['[', ']']
  | .array (item :: rest) => '[' :: item.chars ++ itemChars rest ++ [']']
  | .object [] => ['\x7b', '\x7d']
  | .object ((key, item) :: rest) =>
    '\x7b' :: quote key ++ ':' :: item.chars ++ memberChars rest ++ ['\x7d']

def itemChars : List Value → List Char
  | [] => []
  | item :: rest => ',' :: item.chars ++ itemChars rest

def memberChars : Members → List Char
  | [] => []
  | (key, item) :: rest => ',' :: quote key ++ ':' :: item.chars ++ memberChars rest

end

def render (value : Value) : String := String.ofList value.chars

end Value

end TaskMonitor.Json
