import TaskMonitor.Drawing.TaskDetail
import TaskMonitor.Drawing.TaskList

/-! # Drawing the screen -/

namespace TaskMonitor.Drawing

def location (s : UiState) : String :=
  match s.view, s.viewing with
  | .detail, some id => "Tasks > " ++ id.short
  | _, _ =>
    match s.filter with
    | some status => "Tasks [" ++ status.name ++ "]"
    | none => "Tasks [all]"

def header (s : UiState) : Paragraph :=
  { Paragraph.ofLines
      [.ofSpans [⟨" TaskScope ", Theme.titleStyle⟩, .plain " ", .plain (location s)]] with
    pane := some { Pane.untitled with borderStyle := Theme.mutedStyle } }

def health : Option Bool → Span
  | some true => ⟨"gateway ok", Theme.goodStyle⟩
  | some false => ⟨"gateway down", Theme.badStyle⟩
  | none => ⟨"gateway ?", Theme.mutedStyle⟩

def help : View → String
  | .tasks => " q: quit | j/k: select | Enter: open | f: filter | r: refresh "
  | .detail => " q: quit | Esc: back | j/k: scroll | g: top "

def footer (s : UiState) : Paragraph :=
  .ofLines [.ofSpans [health s.healthy, .plain " |", ⟨help s.view, Theme.mutedStyle⟩]]

def failure (text : String) : Paragraph :=
  { Paragraph.ofText ("Backend failed to start: " ++ text) Theme.badStyle with
    pane := some .untitled }

def body (s : UiState) (now : Instant) (g : Grid) (r : Region) : Grid :=
  match s.fatal with
  | some text => (failure text).draw g r
  | none =>
    match s.view with
    | .tasks => TaskList.draw s now g r
    | .detail => TaskDetail.draw s.detail s.scroll g r

def headerHeight : Nat := 3
def footerHeight : Nat := 1

def screen (s : UiState) (now : Instant) (width height : Nat) : Grid :=
  let g := Grid.blank width height
  let (top, middle, bottom) := g.region.stack headerHeight footerHeight
  (footer s).draw (body s now ((header s).draw g top) middle) bottom

end TaskMonitor.Drawing
