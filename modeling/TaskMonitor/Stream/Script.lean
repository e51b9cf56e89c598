import TaskMonitor.Stream.Manager

/-! # Scripted push channels -/

namespace TaskMonitor

/-- What a subscription will report: signals, and after them its end or nothing more. -/
structure Feed where
  signals : List Signal
  ends : Bool
  deriving DecidableEq, Repr

inductive FeedAnswer where
  | signal (signal : Signal)
  | ended
  | pending
  deriving DecidableEq, Repr

namespace Feed

def silent : Feed := ⟨[], false⟩

def next (f : Feed) : FeedAnswer × Feed :=
  match f.signals with
  | s :: rest => (.signal s, { f with signals := rest })
  | [] => (if f.ends then .ended else .pending, f)

end Feed

/-- A push channel that hands out feeds in the order in which they were queued, and counts. -/
structure ScriptedChannel where
  queued : List Feed
  opened : List String
  closed : Nat
  deriving DecidableEq, Repr

namespace ScriptedChannel

def empty : ScriptedChannel := ⟨[], [], 0⟩

def queue (c : ScriptedChannel) (f : Feed) : ScriptedChannel := { c with queued := c.queued ++ [f] }

def serve (c : ScriptedChannel) (held : Option Feed) :
    ChannelRequest → ScriptedChannel × Option Feed
  | .open url =>
    ({ queued := c.queued.tail, opened := c.opened ++ [url], closed := c.closed },
      some (c.queued.head?.getD .silent))
  | .close => ({ c with closed := c.closed + (if held.isSome then 1 else 0) }, none)

def serveAll (c : ScriptedChannel) (held : Option Feed) :
    List ChannelRequest → ScriptedChannel × Option Feed
  | [] => (c, held)
  | r :: rest =>
    let (c, held) := c.serve held r
    c.serveAll held rest

end ScriptedChannel

end TaskMonitor
