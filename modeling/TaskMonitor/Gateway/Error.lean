import TaskMonitor.Json.Decoder

/-! # Errors in talking to the gateway -/

namespace TaskMonitor

inductive TransferError where
  | unreadable
  /-- The address names no host, or no way to reach it that is known. -/
  | unsupported (url : String)
  | unanswered (url : String)
  deriving DecidableEq, Repr

def TransferError.message : TransferError → String
  | unreadable => "builder error"
  | unsupported url => "builder error for url (" ++ url ++ ")"
  | unanswered url => "error sending request for url (" ++ url ++ ")"

inductive ClientError where
  | notFound (text : String)
  | status (code : Nat) (text : String)
  | transfer (cause : TransferError)
  | serialization (text : String)
  | configuration (text : String)
  deriving DecidableEq, Repr

inductive LoadError where
  | notFound (text : String)
  | transport (text : String)
  deriving DecidableEq, Repr

namespace ClientError

def message : ClientError → String
  | notFound text => text
  | status _ text => text
  | transfer cause => cause.message
  | serialization text => "serialization error: " ++ text
  | configuration text => "invalid configuration: " ++ text

def isNotFound : ClientError → Bool
  | notFound _ => true
  | _ => false

/-! ## Refusals -/

def bodyText : Json.Decoder String := fun room tree => do
  let body ← Json.Decode.record ["error"] room tree
  body.field "error" fun room tree => do
    let error ← Json.Decode.record ["message"] room tree
    error.fieldOr "message" "" Json.Decode.text

/-- The error of an answer that is not a success. Its text is the gateway's, if that gave one. -/
def ofAnswer (code : Nat) (body : List UInt8) : ClientError :=
  let text := match bodyText.read? body with
    | some text => if text = "" then "HTTP " ++ toString code else text
    | none => "HTTP " ++ toString code
  if code = 404 then notFound text else status code text

/-- What the error means for loading a snapshot: only a missing task keeps its kind. -/
def toLoadError : ClientError → LoadError
  | notFound text => .notFound text
  | other => .transport other.message

end ClientError

def LoadError.message : LoadError → String
  | notFound text => text
  | transport text => text

end TaskMonitor
