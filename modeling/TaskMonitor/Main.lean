import TaskMonitor.App.Run
import TaskMonitor.Backend.Session
import TaskMonitor.CommandLine.Settings
import TaskMonitor.Drawing.Whole

/-! # The program

Each line of the standard input is a key, and the screen is written after each. There is no
connection to a gateway here, so every call of one fails. -/

namespace TaskMonitor.Program

def key (line : String) : Key :=
  match line with
  | "up" => .up
  | "down" => .down
  | "enter" => .enter
  | "escape" => .escape
  | "backspace" => .backspace
  | "home" => .home
  | _ =>
    match line.toList with
    | [c] => .char c
    | _ => .other

def exchange (app : App) (session : BackendSession) : App × BackendSession :=
  let (session, reports) := (app.outbox.foldl BackendSession.send session).take mailboxLimit
  ({ app with outbox := [] }.receiveAll reports, session)

/-- The time that ages are counted to. No task arrives, so none is shown. -/
def now : Instant := ⟨⟨1970, 1, 1⟩, 0, 0⟩

def screenText (s : UiState) : String :=
  "\n".intercalate ((Drawing.screen s now 80 24).rows.map fun row =>
    String.join (row.map fun (text, _) => String.ofList text))

partial def run (input output : IO.FS.Stream) (app : App) (session : BackendSession) :
    IO Unit := do
  let (app, session) := exchange app session
  output.putStrLn (screenText app.state)
  output.flush
  let line ← input.getLine
  if line.isEmpty then return
  match app.press (key line.trimAscii.toString) with
  | none => return
  | some app => run input output app session

def start (s : CommandLine.Settings) : IO Unit := do
  let config := s.config
  let session := BackendSession.start ⟨none, [], []⟩ config.baseUrl config.reconnectDelay s.status
    s.task
  run (← IO.getStdin) (← IO.getStdout) (.new s.status s.task) session

end TaskMonitor.Program

open TaskMonitor

def main (arguments : List String) : IO UInt32 := do
  match CommandLine.read arguments with
  | .ok settings =>
    Program.start settings
    return 0
  | .error .help =>
    IO.print CommandLine.helpText
    return 0
  | .error .version =>
    IO.print CommandLine.versionText
    return 0
  | .error (.refused e) =>
    IO.eprint e.message
    return 2
