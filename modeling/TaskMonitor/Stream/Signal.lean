/-! # Signals of a push channel -/

namespace TaskMonitor

inductive Signal where
  | opened
  | message (channel data : String)
  /-- The connection failed; it is tried again. -/
  | interrupted
  /-- The connection failed for good. -/
  | refused
  deriving DecidableEq, Repr

inductive StreamStatus where
  | connecting
  | connected
  /-- Not asked for, or interrupted. -/
  | disconnected
  | closed
  deriving DecidableEq, Repr, Inhabited

namespace StreamStatus

def all : List StreamStatus := [connecting, connected, disconnected, closed]

def name : StreamStatus → String
  | connecting => "connecting"
  | connected => "connected"
  | disconnected => "disconnected"
  | closed => "closed"

end StreamStatus

end TaskMonitor
