/-! # Options of the command line -/

namespace TaskMonitor.CommandLine

inductive Flag where
  | baseUrl
  | status
  | task
  | refresh
  | timeout
  | reconnectDelay
  | logFile
  | help
  | version
  deriving DecidableEq, Repr

namespace Flag

def all : List Flag :=
  [baseUrl, status, task, refresh, timeout, reconnectDelay, logFile, help, version]

def long : Flag → String
  | baseUrl => "base-url"
  | status => "status"
  | task => "task"
  | refresh => "refresh"
  | timeout => "timeout"
  | reconnectDelay => "reconnect-delay"
  | logFile => "log-file"
  | help => "help"
  | version => "version"

def short : Flag → Option Char
  | baseUrl => some 'b'
  | status => some 's'
  | task => some 't'
  | refresh => some 'r'
  | help => some 'h'
  | version => some 'V'
  | _ => none

def valueName : Flag → Option String
  | baseUrl => some "BASE_URL"
  | status => some "STATUS"
  | task => some "TASK"
  | refresh => some "REFRESH"
  | timeout => some "TIMEOUT"
  | reconnectDelay => some "RECONNECT_DELAY"
  | logFile => some "LOG_FILE"
  | help => none
  | version => none

def takesValue (f : Flag) : Bool := f.valueName.isSome

def description : Flag → String
  | baseUrl => "Gateway base URL"
  | status => "Only list tasks with this status (e.g. running)"
  | task => "Open this task directly"
  | refresh => "Task list refresh interval in seconds"
  | timeout => "Request timeout in seconds for list and detail loads"
  | reconnectDelay => "Delay in seconds before the event stream reconnects"
  | logFile => "Log file (logs never go to the terminal)"
  | help => "Print help"
  | version => "Print version"

/-- The value when the option is missing. -/
def standard : Flag → Option String
  | baseUrl => some "http://127.0.0.1:8000"
  | refresh => some "5"
  | timeout => some "10"
  | reconnectDelay => some "3"
  | logFile => some "/tmp/taskscope.log"
  | _ => none

def ofLong? (name : String) : Option Flag := all.find? (·.long = name)

def ofShort? (c : Char) : Option Flag := all.find? (·.short = some c)

def usage (f : Flag) : String :=
  match f.valueName with
  | some value => "--" ++ f.long ++ " <" ++ value ++ ">"
  | none => "--" ++ f.long

end Flag

end TaskMonitor.CommandLine
