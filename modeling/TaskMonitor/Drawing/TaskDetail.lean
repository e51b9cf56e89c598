import TaskMonitor.App.State
import TaskMonitor.Display.Amount
import TaskMonitor.Display.Preview
import TaskMonitor.Display.Theme
import TaskMonitor.Number.Unsigned
import TaskMonitor.Screen.Paragraph
import TaskMonitor.Text.Fit

/-! # Drawing the detail of a task -/

namespace TaskMonitor.Drawing.TaskDetail

def label (text : String) : Span := ⟨text, Theme.boldStyle⟩

def muted (text : String) : Span := ⟨text, Theme.mutedStyle⟩

def gap : Span := .plain "   "

/-! ## The task -/

def streamIndicator : Option StreamStatus → Span
  | some s => ⟨"● " ++ s.name, Theme.streamStyle s⟩
  | none => muted "● idle"

/-- The stream is shown until the task has ended. -/
def statusLine (t : Task) (stream : Option StreamStatus) : Line :=
  .ofSpans <|
    [label "Status: ", ⟨" " ++ t.status.name ++ " ", Theme.statusStyle t.status⟩] ++
    (if t.isTerminal then [] else [gap, streamIndicator stream]) ++
    [gap, label "Risk: ", .plain t.risk.name]

def taskLines (t : Task) (stream : Option StreamStatus) : List Line :=
  [.ofSpans [label "Task ID: ", .plain t.id.text],
    statusLine t stream,
    .ofSpans [label "Channel: ", .plain t.requester.channel, gap, label "Thread: ",
      .plain t.thread],
    .ofSpans [label "Created: ", .plain t.createdAt.screenText, gap, label "Updated: ",
      .plain t.updatedAt.screenText]]

def taskPane (t : Task) (stream : Option StreamStatus) (width : Nat) : Paragraph :=
  let title := " " ++ Text.fit (width - 4) t.title ++ " "
  { Paragraph.ofLines (taskLines t stream) with
    pane := some { Pane.titled title with titleStyle := Theme.titleStyle } }

/-! ## Events -/

def sequenceText (n : Nat) : String :=
  let digits := Nat.toDigits 10 n
  String.ofList ('#' :: digits ++ List.replicate (4 - digits.length) ' ')

def timeText (i : Instant) : String := String.ofList (i.clockText ++ [' '])

def payloadLine (key value : String) : Line :=
  .ofSpans [.plain "      ", muted (key ++ ": "), .plain value]

def eventLines (e : TaskEvent) : List Line :=
  .ofSpans
      [muted (sequenceText e.sequence), muted (timeText e.occurredAt),
        ⟨e.type.name, Theme.eventStyle e.type⟩, .plain "  ", muted e.actor] ::
    (Preview.ofPayload e.payload).map fun (key, value) => payloadLine key value

def eventPaneLines (events : List TaskEvent) : List Line :=
  let lines := events.flatMap eventLines
  if lines.isEmpty then [Line.ofText "No events yet..." Theme.mutedStyle] else lines

/-- The number of the first line that is shown: at most so large that the last line is shown at the
bottom. The screen counts lines with 16 bits. -/
def firstLine (scroll lines height : Nat) : Nat := min scroll (lines - height) % halfWordLimit

def eventPane (events : List TaskEvent) (scroll height : Nat) : Paragraph :=
  let lines := eventPaneLines events
  { Paragraph.ofLines lines with
    pane := some (.titled (" Events (" ++ toString events.length ++ ") "))
    scroll := firstLine scroll lines.length (height - 2) }

/-! ## Artifacts -/

def insetLine (s : Span) : Line := .ofSpans [.plain "    ", s]

def partLines (p : ArtifactPart) : List Line :=
  let inset := match p.content, p.uri with
    | some content, _ => (Text.lines content).map fun l => insetLine (.plain l)
    | none, some uri => [insetLine (.plain uri)]
    | none, none => [insetLine (muted ("[" ++ p.mime ++ "]"))]
  .ofSpans [.plain "  ", muted p.type.name] :: inset

def artifactLines (a : Artifact) : List Line :=
  .ofSpans [label a.name, .plain "  ", muted (Size.text a.size)] :: a.parts.flatMap partLines

/-- The height that the artifacts' lines ask for, at most a third of the whole. The screen counts
lines with 16 bits. -/
def artifactHeight (lines height : Nat) : Nat :=
  if lines = 0 then 0 else min ((lines + 2) % halfWordLimit) (height / 3)

def artifactPane (artifacts : List Artifact) : Paragraph :=
  { Paragraph.ofLines (artifacts.flatMap artifactLines) with
    pane := some (.titled (" Artifacts (" ++ toString artifacts.length ++ ") "))
    breaking := .wrap false }

/-! ## The whole -/

def loadingPane : Paragraph :=
  { Paragraph.ofText "Loading..." Theme.mutedStyle with pane := some (.titled " Task ") }

def errorText : Option LoadError → String
  | some (.notFound text) => "Task not found. " ++ text
  | some (.transport text) => "Failed to load task: " ++ text
  | none => "Task unavailable."

def errorPane (error : Option LoadError) : Paragraph :=
  { Paragraph.ofText (errorText error) Theme.badStyle with
    pane := some (.titled " Task ")
    breaking := .wrap true }

def taskHeight : Nat := 6

def drawTask (t : Task) (v : DetailView) (scroll : Nat) (g : Grid) (r : Region) : Grid :=
  let wanted := artifactHeight (v.artifacts.flatMap artifactLines).length r.height
  let (top, middle, bottom) := r.stack taskHeight wanted
  let g := (taskPane t v.streamStatus top.width).draw g top
  let g := (eventPane v.events scroll middle.height).draw g middle
  if wanted = 0 then g else (artifactPane v.artifacts).draw g bottom

def draw (detail : Option DetailView) (scroll : Nat) (g : Grid) (r : Region) : Grid :=
  match detail with
  | none => loadingPane.draw g r
  | some v =>
    if v.loading then loadingPane.draw g r
    else
      match v.task with
      | some t => drawTask t v scroll g r
      | none => (errorPane v.error).draw g r

end TaskMonitor.Drawing.TaskDetail
