import TaskMonitor.App.Basic

/-! # Running the application -/

namespace TaskMonitor

inductive Poll where
  | key (key : Key)
  | ignored
  /-- Nothing, while the backend sent messages. -/
  | idle (reports : List Report)
  | failed (text : String)
  deriving Repr

structure Draw where
  commands : List Command
  state : UiState
  deriving Repr

structure AppRun where
  draws : List Draw
  commands : List Command
  error : Option String
  deriving Repr

namespace App

inductive Outcome where
  | goes (app : App)
  | leaves (app : App)
  | fails (text : String)

def poll (a : App) : Poll → Outcome
  | .key k =>
    match a.press k with
    | some a => .goes a
    | none => .leaves a
  | .ignored => .goes a
  | .idle reports => .goes (a.receiveAll reports)
  | .failed text => .fails text

/-- Draws, waits for the user, and does so again until the user leaves. The backend receives the
commands that were sent whenever the screen is drawn. At the end of the polls the user leaves. -/
def run (a : App) (polls : List Poll) : AppRun :=
  let drawn : Draw := ⟨a.outbox, a.state⟩
  let a := { a with outbox := [] }
  match polls with
  | [] => ⟨[drawn], [.quit], none⟩
  | p :: rest =>
    match a.poll p with
    | .goes a =>
      let r := a.run rest
      { r with draws := drawn :: r.draws }
    | .leaves a => ⟨[drawn], a.outbox ++ [.quit], none⟩
    | .fails text => ⟨[drawn], [], some text⟩

end App

end TaskMonitor
