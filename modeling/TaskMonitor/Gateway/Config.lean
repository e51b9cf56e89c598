/-! # Settings -/

namespace TaskMonitor

def withoutSlashes (text : String) : String :=
  String.ofList (text.toList.reverse.dropWhile (· = '/')).reverse

/-- How the gateway is reached. Times are in milliseconds. -/
structure Config where
  baseUrl : String
  requestTimeout : Nat
  /-- Before the push channel is opened again, until the gateway asks for another delay. -/
  reconnectDelay : Nat
  /-- Between two loads of the task list while it is shown. -/
  listRefresh : Nat
  deriving DecidableEq, Repr

namespace Config

def standard : Config := ⟨"http://127.0.0.1:8000", 10000, 3000, 5000⟩

def withBaseUrl (c : Config) (url : String) : Config := { c with baseUrl := withoutSlashes url }

end Config

end TaskMonitor
