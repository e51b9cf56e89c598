import TaskMonitor.Screen.Style
import TaskMonitor.Stream.Signal
import TaskMonitor.Task.Status

/-! # The theme -/

namespace TaskMonitor.Theme

def accent : Colour := .cyan
def good : Colour := .green
def warning : Colour := .yellow
def bad : Colour := .red
def active : Colour := .blue
def muted : Colour := .darkGray

def titleStyle : Style := ⟨some accent, true, false⟩
def goodStyle : Style := .coloured good
def badStyle : Style := .coloured bad
def mutedStyle : Style := .coloured muted
def boldStyle : Style := .emphasized
def selectedStyle : Style := .inverted

def statusColour : TaskStatus → Colour
  | .created | .queued => muted
  | .running => active
  | .waitingInput | .waitingApproval | .paused => warning
  | .succeeded => good
  | .failed | .rejected => bad
  | .cancelled => warning

def statusStyle (s : TaskStatus) : Style := ⟨some (statusColour s), true, false⟩

def streamStyle : StreamStatus → Style
  | .connected => .coloured good
  | .connecting => .coloured warning
  | .disconnected => .coloured muted
  | .closed => .coloured bad

def eventStyle : EventType → Style
  | .taskCreated => .coloured accent
  | .userMessage => .coloured active
  | .modelCallStarted | .modelCallCompleted => .coloured good
  | .modelCallFailed | .error => .coloured bad
  | .stateTransition => .coloured warning
  | .artifactCreated => .coloured accent

end TaskMonitor.Theme
