import TaskMonitor.App.State
import TaskMonitor.Display.Amount
import TaskMonitor.Display.Theme
import TaskMonitor.Screen.Paragraph
import TaskMonitor.Screen.Table
import TaskMonitor.Text.Fit

/-! # Drawing the task list -/

namespace TaskMonitor.Drawing.TaskList

def title (s : UiState) : String :=
  " Tasks (" ++ toString s.tasks.length ++
    (if s.listError.isSome then ") - refresh failed " else ") ")

def placeholder (s : UiState) : Paragraph :=
  let paragraph := match s.listError with
    | some error => Paragraph.ofText ("Failed to load tasks: " ++ error) Theme.badStyle
    | none => Paragraph.ofText "No tasks." Theme.mutedStyle
  { paragraph with pane := some (.titled (title s)) }

/-- The id, the title, the status, the risk and two ages. The title takes what is left. -/
def plan : ColumnPlan where
  count := 6
  growth :=
    [⟨[1], 8⟩, ⟨[0], 8⟩, ⟨[2, 3, 4, 5], 8⟩, ⟨[4, 5], 10⟩, ⟨[0], 10⟩, ⟨[2], 18⟩]
  filling := 1

def header : List TableCell :=
  ["Task ID", "Title", "Status", "Risk", "Created", "Updated"].map (TableCell.ofText · .plain)

def titleWidth (width : Nat) : Nat := max (width - 64) 8

def row (width : Nat) (now : Instant) (t : TaskSummary) : List TableCell :=
  [.ofText t.id.short .plain, .ofText (Text.fit (titleWidth width) t.title) .plain,
    .ofText t.status.name (Theme.statusStyle t.status), .ofText t.risk.name .plain,
    .ofText (t.createdAt.age now) Theme.mutedStyle, .ofText (t.updatedAt.age now) Theme.mutedStyle]

def table (s : UiState) (width : Nat) (now : Instant) : Table where
  pane := .titled (title s)
  plan := plan
  header := header
  headerStyle := Theme.boldStyle
  rows := s.tasks.map (row width now)
  selected := min s.selected (s.tasks.length - 1)
  selectedStyle := Theme.selectedStyle

def draw (s : UiState) (now : Instant) (g : Grid) (r : Region) : Grid :=
  if s.tasks.isEmpty then (placeholder s).draw g r else (table s r.width now).draw g r

end TaskMonitor.Drawing.TaskList
