import TaskMonitor.Gateway.Error
import TaskMonitor.Location.Basic

/-! # Requests and answers -/

namespace TaskMonitor

structure Request where
  target : String
  accept : String
  cacheControl : Option String
  lastEventId : Option String
  deriving DecidableEq, Repr

namespace Request

def plain (target : String) : Request := ⟨target, "*/*", none, none⟩

/-- A request for an event stream, from the event after the one named. -/
def stream (target : String) (lastEventId : Option String) : Request :=
  ⟨target, "text/event-stream", some "no-cache", lastEventId⟩

def isHeaderChar (c : Char) : Bool := c = '\t' || (0x20 ≤ c.toNat && c.toNat ≠ 0x7F)

end Request

inductive Ending where
  | complete
  | broken
  /-- The connection stays open. -/
  | held
  deriving DecidableEq, Repr

structure Answer where
  status : Nat
  contentType : Option String
  chunks : List (List UInt8)
  ending : Ending
  deriving DecidableEq, Repr

namespace Answer

def isSuccess (a : Answer) : Bool := 200 ≤ a.status && a.status < 300

/-- The bytes, if all of them arrived. -/
def body? (a : Answer) : Option (List UInt8) :=
  if a.ending = .complete then some a.chunks.flatten else none

def streamType : List Char := "text/event-stream".toList

/-- An event stream: its type may have parameters, and holds plain characters only. -/
def isStream (a : Answer) : Bool :=
  match a.contentType with
  | none => false
  | some type =>
    let type := type.toList.dropWhile fun c => c = ' ' || c = '\t'
    streamType.isPrefixOf type && type.all fun c => c = '\t' || (0x20 ≤ c.toNat && c.toNat < 0x7F)

end Answer

/-! ## Where a request goes -/

namespace Location

/-- The location of a request. It has to name a host. -/
def forRequest (url : String) : Except TransferError Location :=
  match ofText? url.toList with
  | none => .error .unreadable
  | some l => if l.hasHost then .ok l else .error (.unsupported (String.ofList l.text))

def isWeb (l : Location) : Bool := l.scheme = "http".toList || l.scheme = "https".toList

end Location

end TaskMonitor
