import TaskMonitor.App.Basic
import TaskMonitor.Drawing.TaskDetail

/-! # Scrolling through events

How far the user scrolled is counted without end. The pane shows the lines from there on, but goes
no further than to the last line at its bottom, as long as what is left above has a number of 16
bits. -/

namespace TaskMonitor

/-! ## Keys -/

def Key.ScrollsDown (k : Key) : Prop := k = .down ∨ k = .char 'j'

namespace App

variable {a : App}

theorem press_of_scrollsDown (hview : a.state.view = .detail) {k : Key} (hk : k.ScrollsDown) :
    a.press k = some (a.update (·.scrollDown)) := by
  rcases hk with rfl | rfl <;> simp [press, hview, detailKey]

/-- Keys that scroll down count up to the limit, and change nothing else. -/
theorem exists_foldlM_press (hview : a.state.view = .detail) {ks : List Key}
    (hks : ∀ k ∈ ks, k.ScrollsDown) :
    ∃ scroll, ks.foldlM press a = some (a.update fun s => { s with scroll := scroll }) ∧
      min (a.state.scroll + ks.length) UiState.scrollLimit ≤ scroll := by
  induction ks generalizing a with
  | nil => exact ⟨a.state.scroll, rfl, Nat.min_le_left _ _⟩
  | cons k ks ih =>
      have hpress := press_of_scrollsDown hview (hks k (.head _))
      have hview' : (a.update (·.scrollDown)).state.view = .detail := hview
      obtain ⟨scroll, hrun, hscroll⟩ := ih hview' fun k' hk' => hks k' (.tail _ hk')
      refine ⟨scroll, by rw [List.foldlM_cons, hpress]; exact hrun, ?_⟩
      have hone : (a.update (·.scrollDown)).state.scroll =
          min (a.state.scroll + 1) UiState.scrollLimit := rfl
      rw [List.length_cons]
      omega

end App

namespace Drawing.TaskDetail

/-! ## Lines -/

/-- How many lines events take: one each, and one more for each entry of its preview. -/
def lineCount (events : List TaskEvent) : Nat :=
  events.foldr (fun e n => 1 + min Preview.entryLimit e.payload.length + n) 0

theorem length_eventLines (e : TaskEvent) :
    (eventLines e).length = 1 + min Preview.entryLimit e.payload.length := by
  simp [eventLines, Preview.ofPayload, Nat.add_comm]

theorem length_flatMap_eq_foldr {α : Type} {lines : α → List Line} {count : α → Nat}
    (h : ∀ a, (lines a).length = count a) (as : List α) :
    (as.flatMap lines).length = as.foldr (fun a n => count a + n) 0 := by
  induction as with
  | nil => rfl
  | cons a as ih => rw [List.flatMap_cons, List.length_append, h, ih, List.foldr_cons]

theorem length_flatMap_eventLines (events : List TaskEvent) :
    (events.flatMap eventLines).length = lineCount events :=
  length_flatMap_eq_foldr length_eventLines events

theorem length_eventPaneLines (events : List TaskEvent) :
    (eventPaneLines events).length = max 1 (lineCount events) := by
  have hlength := length_flatMap_eventLines events
  simp only [eventPaneLines]
  split
  next hnone =>
    rw [List.isEmpty_iff.mp hnone, List.length_nil] at hlength
    rw [← hlength]
    rfl
  next hsome =>
    have hpos : 0 < (events.flatMap eventLines).length :=
      List.length_pos_iff.mpr (by simpa using hsome)
    rw [hlength]
    omega

/-! ## The first line -/

variable {events : List TaskEvent} {r : Region}

def topLine (events : List TaskEvent) (scroll : Nat) (r : Region) : Nat :=
  (eventPane events scroll r.height).scroll

def paneGlyphs (events : List TaskEvent) (columns : Nat) : List Glyphs :=
  (eventPaneLines events).map fun l => cutGlyphs columns columns (l.glyphs .plain)

def shownLines (events : List TaskEvent) (scroll : Nat) (r : Region) : List Glyphs :=
  (eventPane events scroll r.height).window r.inner.width r.inner.height

def drawFrame (events : List TaskEvent) (g : Grid) (r : Region) : Grid :=
  (Pane.titled (" Events (" ++ toString events.length ++ ") ")).draw (g.restyle r .plain) r

/-- Inside its border the pane shows its lines one below the other. -/
theorem draw_eventPane (hinner : r.inner.isEmpty = false) (events : List TaskEvent) (scroll : Nat)
    (g : Grid) :
    (eventPane events scroll r.height).draw g r =
      Paragraph.drawLines (drawFrame events g r) r.inner.x r.inner.y
        (shownLines events scroll r) := by
  simp only [Paragraph.draw, eventPane, Paragraph.ofLines, hinner, shownLines]
  rfl

theorem shownLines_eq (events : List TaskEvent) (scroll : Nat) (r : Region) :
    shownLines events scroll r =
      ((paneGlyphs events r.inner.width).drop (topLine events scroll r)).take r.inner.height := by
  have hbroken : (eventPane events scroll r.height).broken r.inner.width =
      paneGlyphs events r.inner.width := List.map_eq_flatMap.symm
  rw [shownLines, Paragraph.window, hbroken]
  rfl

theorem topLine_eq (hinner : 0 < r.inner.height) (scroll : Nat) :
    topLine events scroll r =
      min scroll (lineCount events - r.inner.height) % halfWordLimit := by
  have hlines := length_eventPaneLines events
  have htop : topLine events scroll r =
      firstLine scroll (eventPaneLines events).length r.inner.height := rfl
  have hover : max 1 (lineCount events) - r.inner.height = lineCount events - r.inner.height := by
    omega
  rw [htop, firstLine, hlines, hover]

/-! ## Scrolling -/

/-- Scrolling shows the lines from the one that was scrolled to, or as many as there are rows when
fewer are left, and these are drawn. -/
structure Scrolls (events : List TaskEvent) (r : Region) : Prop where
  top : ∀ scroll, topLine events scroll r = min scroll (lineCount events - r.inner.height)
  shown : ∀ scroll, shownLines events scroll r =
    ((paneGlyphs events r.inner.width).drop
      (min scroll (lineCount events - r.inner.height))).take r.inner.height
  drawn : r.inner.isEmpty = false → ∀ scroll g, (eventPane events scroll r.height).draw g r =
    Paragraph.drawLines (drawFrame events g r) r.inner.x r.inner.y
      (((paneGlyphs events r.inner.width).drop
        (min scroll (lineCount events - r.inner.height))).take r.inner.height)
  /-- A key that scrolls down never goes back up. -/
  down : ∀ (a b : App) (k : Key), k.ScrollsDown → a.state.view = .detail → a.press k = some b →
    topLine events a.state.scroll r ≤ topLine events b.state.scroll r
  /-- As many of them as there are lines without a row lead to the last line. -/
  last : ∀ (a : App) (ks : List Key), a.state.view = .detail → (∀ k ∈ ks, k.ScrollsDown) →
    lineCount events ≤ ks.length + r.inner.height →
    ∃ b, ks.foldlM App.press a = some b ∧ b.state.detail = a.state.detail ∧
      lineCount events ≤ topLine events b.state.scroll r + r.inner.height

theorem topLine_eq_iff (hinner : 0 < r.inner.height) (scroll : Nat) :
    topLine events scroll r = min scroll (lineCount events - r.inner.height) ↔
      min scroll (lineCount events - r.inner.height) < halfWordLimit := by
  rw [topLine_eq hinner]
  exact Nat.mod_eq_iff_lt (by decide)

theorem Scrolls.of_top (h : ∀ scroll, topLine events scroll r =
    min scroll (lineCount events - r.inner.height))
    (hlimit : lineCount events - r.inner.height ≤ UiState.scrollLimit) : Scrolls events r where
  top := h
  shown scroll := by rw [shownLines_eq, h]
  drawn hinner scroll g := by rw [draw_eventPane hinner, shownLines_eq, h]
  down a b k hk hview hpress := by
    obtain rfl := Option.some.inj ((App.press_of_scrollsDown hview hk).symm.trans hpress)
    have hnext : (a.update (·.scrollDown)).state.scroll =
        min (a.state.scroll + 1) UiState.scrollLimit := rfl
    rw [h, h, hnext]
    omega
  last a ks hview hks hmany := by
    obtain ⟨scroll, hrun, hscroll⟩ := App.exists_foldlM_press hview hks
    refine ⟨_, hrun, rfl, ?_⟩
    have hreached : (a.update fun s => { s with scroll := scroll }).state.scroll = scroll := rfl
    rw [h, hreached]
    omega

/-- Scrolling is right exactly if the number of lines that do not fit has 16 bits. -/
theorem scrolls_iff (hinner : 0 < r.inner.height) :
    Scrolls events r ↔ lineCount events - r.inner.height < halfWordLimit := by
  constructor
  · intro h
    have htop := (topLine_eq_iff hinner halfWordLimit).mp (h.top halfWordLimit)
    omega
  · intro hfew
    have hlimit : halfWordLimit ≤ UiState.scrollLimit := by decide
    refine .of_top (fun scroll => ?_) (by omega)
    rw [topLine_eq_iff hinner]
    omega

def eventWith (payload : Json.Members) : TaskEvent :=
  ⟨⟨"e1"⟩, 1, ⟨⟨2026, 3, 1⟩, 0, 0⟩, .error, "u", payload⟩

theorem few_lines_scroll :
    0 < (⟨0, 9, 40, 4⟩ : Region).inner.height ∧
      lineCount [eventWith [("a", .null), ("b", .null)], eventWith [("a", .null)]] = 5 ∧
      Scrolls [eventWith [("a", .null), ("b", .null)], eventWith [("a", .null)]] ⟨0, 9, 40, 4⟩ :=
  ⟨by decide, by decide, (scrolls_iff (by decide)).mpr (by decide)⟩

theorem lineCount_replicate (n : Nat) (e : TaskEvent) :
    lineCount (List.replicate n e) = n * (1 + min Preview.entryLimit e.payload.length) := by
  induction n with
  | zero => simp [lineCount]
  | succ n ih =>
      have hcons : lineCount (List.replicate (n + 1) e) =
          1 + min Preview.entryLimit e.payload.length + lineCount (List.replicate n e) := rfl
      rw [hcons, ih, Nat.succ_mul, Nat.add_comm]

def manyEvents : List TaskEvent := List.replicate (halfWordLimit + 2) (eventWith [])

def oneRow : Region := ⟨0, 9, 40, 3⟩

theorem lines_over_oneRow : lineCount manyEvents - oneRow.inner.height = halfWordLimit + 1 := by
  rw [manyEvents, lineCount_replicate]
  rfl

/-- After the last line that has a number of 16 bits the first one is shown again, and the last of
all lines is never reached. -/
theorem many_lines_wrap :
    topLine manyEvents (halfWordLimit - 1) oneRow = halfWordLimit - 1 ∧
      topLine manyEvents halfWordLimit oneRow = 0 ∧
      (∀ scroll, topLine manyEvents scroll oneRow + oneRow.inner.height < lineCount manyEvents) ∧
      ¬ ∀ events r, 0 < r.inner.height → Scrolls events r := by
  have hinner : 0 < oneRow.inner.height := by decide
  have hover := lines_over_oneRow
  refine ⟨?_, ?_, fun scroll => ?_, fun h => ?_⟩
  · rw [topLine_eq hinner, hover]
    decide
  · rw [topLine_eq hinner, hover]
    decide
  · have hlow := Nat.mod_lt (min scroll (halfWordLimit + 1)) (by decide : 0 < halfWordLimit)
    rw [topLine_eq hinner, hover]
    omega
  · have hfew := (scrolls_iff hinner).mp (h manyEvents oneRow hinner)
    omega

end Drawing.TaskDetail

end TaskMonitor
