import TaskMonitor.Json.Value
import TaskMonitor.Text.Fit

/-! # Previews of payloads -/

namespace TaskMonitor.Preview

def entryLimit : Nat := 4

def valueWidth : Nat := 60

/-- A text is shown as it is, any other value as compact JSON. -/
def valueText : Json.Value → List Char
  | .text s => s.toList
  | other => other.chars

def isLineBreak (c : Char) : Bool := c = '\n' || c = '\r'

def flatten (text : List Char) : List Char := text.map fun c => if isLineBreak c then ' ' else c

def entry (key : String) (value : Json.Value) : String × String :=
  (key, String.ofList (Text.fitBy Text.width valueWidth (flatten (valueText value))))

def ofPayload (payload : Json.Members) : List (String × String) :=
  (payload.take entryLimit).map fun (key, value) => entry key value

end TaskMonitor.Preview
