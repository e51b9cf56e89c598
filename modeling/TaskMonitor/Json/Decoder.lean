import TaskMonitor.Json.Value

/-! # Reading typed data from JSON -/

namespace TaskMonitor.Json

/-- Reads a value of a type from a document in which containers may still be nested to a given
depth. -/
abbrev Decoder (α : Type) := Nat → Tree → Option α

def depthLimit : Nat := 127

def Decoder.read? {α : Type} (decode : Decoder α) (bytes : List UInt8) : Option α :=
  (Tree.ofBytes? bytes).bind (decode depthLimit)

def Decoder.readText? {α : Type} (decode : Decoder α) (text : String) : Option α :=
  decode.read? (Utf8.encode text.toList)

namespace Decode

/-! ## Simple types -/

def text : Decoder String
  | _, .text literal => literal.text?
  | _, _ => none

def bool : Decoder Bool
  | _, .bool b => some b
  | _, _ => none

def natural : Decoder Nat
  | _, .number n => n.integer?.bind fun i => if 0 ≤ i then some i.toNat else none
  | _, _ => none

def optional {α : Type} (decode : Decoder α) : Decoder (Option α)
  | _, .null => some none
  | room, tree => (decode room tree).map some

def list {α : Type} (decode : Decoder α) : Decoder (List α)
  | room + 1, .array items => items.mapM (decode room)
  | _, _ => none

def members : Decoder Members
  | room + 1, .object ms => Value.ofMembers? room [] ms
  | _, _ => none

/-- One of some names: the name alone, or an object with the name as its one key and a value that
stands for nothing. -/
def name {α : Type} (isNothing : Tree → Bool) (find : String → Option α) : Decoder α
  | _, .text literal => literal.text?.bind find
  | _ + 1, .object [(key, value)] => if isNothing value then key.text?.bind find else none
  | _, _ => none

def isNull : Tree → Bool
  | .null => true
  | _ => false

/-! ## Records -/

structure Record where
  room : Nat
  fields : List (String × Tree)

def keyed? (ms : List (TextLiteral × Tree)) : Option (List (String × Tree)) :=
  ms.mapM fun (key, value) => key.text?.map (·, value)

/-- The fields of an object with these names. Other members are skipped, and no field is
repeated. -/
def fieldsOf? (names : List String) (ms : List (String × Tree)) : Option (List (String × Tree)) :=
  let fields := ms.filter (names.contains ·.1)
  if (fields.map Prod.fst).Nodup then some fields else none

/-- A record is an object, or an array of its fields in order with none beyond the last. -/
def record (names : List String) : Decoder Record
  | room + 1, .object ms =>
    ((keyed? ms).bind (fieldsOf? names)).map (Record.mk room)
  | room + 1, .array items =>
    if items.length ≤ names.length then some ⟨room, names.zip items⟩ else none
  | _, _ => none

namespace Record

def field {α : Type} (r : Record) (name : String) (decode : Decoder α) : Option α :=
  (r.fields.lookup name).bind (decode r.room)

def fieldOr {α : Type} (r : Record) (name : String) (missing : α) (decode : Decoder α) : Option α :=
  match r.fields.lookup name with
  | some tree => decode r.room tree
  | none => some missing

end Record

end Decode

end TaskMonitor.Json
