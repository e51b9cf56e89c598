import TaskMonitor.EventStream.Basic
import TaskMonitor.Gateway.Script
import TaskMonitor.Stream.Signal

/-! # Subscriptions to an event stream -/

namespace TaskMonitor

inductive Attempt where
  | failed
  | refused
  | accepted (chunks : List (List UInt8)) (ending : Ending)
  deriving DecidableEq, Repr

/-- An answer other than a successful one with an event stream is a refusal. -/
def Attempt.ofAnswer? : Option Answer → Attempt
  | none => .failed
  | some a => if a.isSuccess && a.isStream then .accepted a.chunks a.ending else .refused

inductive Connection where
  /-- To be made, in a number of milliseconds. -/
  | waiting (delay : Nat)
  | reading (decoder : EventStream.Decoder) (chunks : List (List UInt8)) (ending : Ending)
  | closed
  deriving DecidableEq, Repr

/-- A subscription connects again after each interruption, from the last event it received. -/
structure Subscription where
  url : String
  retry : Nat
  lastEventId : Option String
  connection : Connection
  /-- Signals that were decoded and not yet handed out. -/
  pending : List Signal
  deriving DecidableEq, Repr

inductive Reading where
  | signal (signal : Signal)
  | ended
  | silent
  deriving DecidableEq, Repr

namespace Subscription

def start (url : String) (retry : Nat) : Subscription := ⟨url, retry, none, .waiting 0, []⟩

/-- Gives the subscription up, with the signals not yet handed out. -/
def close (s : Subscription) : Subscription := { s with connection := .closed, pending := [] }

/-- The delay before the connection that the next signal needs, if it needs one. -/
def delay? (s : Subscription) : Option Nat :=
  match s.pending, s.connection with
  | [], .waiting delay => some delay
  | _, _ => none

/-! ## Reading -/

def message? (f : EventStream.Frame) : Option Signal :=
  if f.hasData then some (.message f.channel f.data) else none

/-- Takes a frame. What it says about resuming counts also if it is no message. -/
def absorb (s : Subscription) (f : EventStream.Frame) : Subscription :=
  { s with
    lastEventId := f.id <|> s.lastEventId
    retry := f.retry.getD s.retry
    pending := s.pending ++ (message? f).toList }

def absorbAll (s : Subscription) (frames : List EventStream.Frame) : Subscription :=
  frames.foldl absorb s

def interrupt (s : Subscription) : Subscription := { s with connection := .waiting s.retry }

/-- Reads chunks until they complete a message. -/
def readFrom (s : Subscription) (decoder : EventStream.Decoder) (ending : Ending) :
    List (List UInt8) → Reading × Subscription
  | [] =>
    if ending = .held then (.silent, { s with connection := .reading decoder [] ending })
    else (.signal .interrupted, s.interrupt)
  | chunk :: rest =>
    let (decoder, frames) := decoder.push chunk
    let s := s.absorbAll frames
    match s.pending with
    | signal :: more =>
      (.signal signal, { s with connection := .reading decoder rest ending, pending := more })
    | [] => s.readFrom decoder ending rest

def read (s : Subscription) : Reading × Subscription :=
  match s.pending, s.connection with
  | signal :: rest, _ => (.signal signal, { s with pending := rest })
  | [], .reading decoder chunks ending => s.readFrom decoder ending chunks
  | [], .closed => (.ended, s)
  | [], .waiting _ => (.silent, s)

def connected (s : Subscription) : Attempt → Signal × Subscription
  | .failed => (.interrupted, s.interrupt)
  | .refused => (.refused, { s with connection := .closed })
  | .accepted chunks ending => (.opened, { s with connection := .reading .empty chunks ending })

end Subscription

def ScriptedGateway.next (g : ScriptedGateway) (s : Subscription) :
    ScriptedGateway × Subscription × Reading × Nat :=
  match s.delay? with
  | some delay =>
    let (g, transfer) := g.connect s.url s.lastEventId
    let (signal, s) := s.connected (.ofAnswer? transfer.toOption)
    (g, s, .signal signal, delay)
  | none =>
    let (reading, s) := s.read
    (g, s, reading, 0)

end TaskMonitor
