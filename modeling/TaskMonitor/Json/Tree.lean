import TaskMonitor.Json.Numeral

/-! # JSON documents as written -/

namespace TaskMonitor.Json

/-- A document with its texts and numbers as they were written, so that a reader may skip a part
without asking whether its texts are characters and its numbers have a value. -/
inductive Tree where
  | null
  | bool (value : Bool)
  | number (numeral : Numeral)
  | text (literal : TextLiteral)
  | array (items : List Tree)
  | object (members : List (TextLiteral × Tree))
  deriving Repr

/-- A container whose end has not been read, its contents latest first. -/
inductive Container where
  | array (items : List Tree)
  | object (members : List (TextLiteral × Tree)) (key : TextLiteral)
  deriving Repr

/-- What has been read of a document: the containers that are open, innermost first, and what has
to follow. -/
inductive Reader where
  | value (within : List Container)
  /-- A value, or the end of an array. -/
  | firstItem (within : List Container)
  /-- A key, or the end of an object. -/
  | firstKey (within : List Container)
  | key (within : List Container) (members : List (TextLiteral × Tree))
  | colon (within : List Container) (members : List (TextLiteral × Tree)) (key : TextLiteral)
  | after (within : List Container) (value : Tree)
  deriving Repr

/-! ## Reading -/

def word? (bytes : List UInt8) : Option Tree :=
  if bytes == [0x6E, 0x75, 0x6C, 0x6C] then some .null
  else if bytes == [0x74, 0x72, 0x75, 0x65] then some (.bool true)
  else if bytes == [0x66, 0x61, 0x6C, 0x73, 0x65] then some (.bool false)
  else none

namespace Reader

def valueStep (within : List Container) : Token → Option Reader
  | .openArray => some (.firstItem within)
  | .openObject => some (.firstKey within)
  | .text literal => some (.after within (.text literal))
  | .number bytes => (Numeral.ofBytes? bytes).map fun n => .after within (.number n)
  | .word bytes => (word? bytes).map (.after within)
  | _ => none

/-- A token after a finished value: a comma, or the end of the innermost container. -/
def afterStep (done : Tree) : List Container → Token → Option Reader
  | .array items :: within, .comma => some (.value (.array (done :: items) :: within))
  | .array items :: within, .closeArray => some (.after within (.array (done :: items).reverse))
  | .object members k :: within, .comma => some (.key within ((k, done) :: members))
  | .object members k :: within, .closeObject =>
    some (.after within (.object ((k, done) :: members).reverse))
  | _, _ => none

def step : Reader → Token → Option Reader
  | .value within, t => valueStep within t
  | .firstItem within, .closeArray => some (.after within (.array []))
  | .firstItem within, t => valueStep (.array [] :: within) t
  | .firstKey within, .closeObject => some (.after within (.object []))
  | .firstKey within, .text k => some (.colon within [] k)
  | .key within members, .text k => some (.colon within members k)
  | .colon within members k, .colon => some (.value (.object members k :: within))
  | .after within done, t => afterStep done within t
  | _, _ => none

def finish : Reader → Option Tree
  | .after [] done => some done
  | _ => none

end Reader

def Tree.ofBytes? (bytes : List UInt8) : Option Tree := do
  let tokens ← tokens? bytes
  let reader ← tokens.foldlM Reader.step (.value [])
  reader.finish

end TaskMonitor.Json
