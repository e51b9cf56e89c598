import TaskMonitor.Number.Unsigned
import TaskMonitor.Text.Utf8

/-! # Event streams -/

namespace TaskMonitor.EventStream

structure Frame where
  event : Option String
  data : String
  id : Option String
  retry : Option Nat
  deriving DecidableEq, Repr

namespace Frame

def empty : Frame := ⟨none, "", none, none⟩

def defaultChannel : String := "message"

def channel (f : Frame) : String := f.event.getD defaultChannel

def hasData (f : Frame) : Bool := f.data ≠ ""

end Frame

/-! ## Fields -/

structure Draft where
  event : Option String
  /-- Latest first. -/
  data : List String
  id : Option String
  retry : Option Nat
  deriving DecidableEq, Repr

namespace Draft

def empty : Draft := ⟨none, [], none, none⟩

/-- The frame of the fields, unless it would be the empty one. -/
def frame? (d : Draft) : Option Frame :=
  let f : Frame := ⟨d.event, "\n".intercalate d.data.reverse, d.id, d.retry⟩
  if f = .empty then none else some f

end Draft

/-- Name and value of a field: what stands before the first colon, and what follows it less one
blank. Without a colon the whole line is the name. -/
def splitField (line : List Char) : List Char × List Char :=
  let name := line.takeWhile (· ≠ ':')
  match line.drop name.length with
  | [] => (name, [])
  | _ :: value => (name, if value.head? = some ' ' then value.tail else value)

/-- Takes a line that is not empty into the fields. Comments begin with a colon. -/
def Draft.addLine (d : Draft) (line : List Char) : Draft :=
  if line.head? = some ':' then d
  else
    let (name, value) := splitField line
    if name = "event".toList then { d with event := some (String.ofList value) }
    else if name = "data".toList then { d with data := String.ofList value :: d.data }
    else if name = "id".toList then
      if value.contains '\x00' then d else { d with id := some (String.ofList value) }
    else if name = "retry".toList then
      match Unsigned.read value with
      | .ok ms => { d with retry := some ms }
      | .error _ => d
    else d

/-! ## Decoding -/

structure Decoder where
  /-- The bytes of the line in progress, latest first. -/
  line : List UInt8
  draft : Draft
  /-- The last byte was a carriage return; a line feed after it ends no further line. -/
  afterReturn : Bool
  deriving DecidableEq, Repr

namespace Decoder

def empty : Decoder := ⟨[], .empty, false⟩

/-- The line in progress ends. An empty line completes the frame. -/
def endLine (d : Decoder) : Decoder × List Frame :=
  if d.line.isEmpty then
    ({ d with draft := .empty }, d.draft.frame?.toList)
  else
    ({ d with line := [], draft := d.draft.addLine (Utf8.decodeLossy d.line.reverse).toList }, [])

/-- Reads one byte. A line ends at a line feed, at a carriage return, or at both in this order. -/
def step (d : Decoder) (b : UInt8) : Decoder × List Frame :=
  if d.afterReturn ∧ b = 0x0A then ({ d with afterReturn := false }, [])
  else
    let d := { d with afterReturn := false }
    if b = 0x0A then d.endLine
    else if b = 0x0D then
      let (d, frames) := d.endLine
      ({ d with afterReturn := true }, frames)
    else ({ d with line := b :: d.line }, [])

def push (d : Decoder) : List UInt8 → Decoder × List Frame
  | [] => (d, [])
  | b :: rest =>
    let (d, frames) := d.step b
    let (d, more) := d.push rest
    (d, frames ++ more)

def pushAll (d : Decoder) : List (List UInt8) → Decoder × List (List Frame)
  | [] => (d, [])
  | chunk :: rest =>
    let (d, frames) := d.push chunk
    let (d, more) := d.pushAll rest
    (d, frames :: more)

end Decoder

end TaskMonitor.EventStream
