import TaskMonitor.Proofs.Drawing.Scrolling
import TaskMonitor.Text.Basic

/-! # The height of the artifacts

The pane of the artifacts asks for its lines and a border, and for no more than a third of the
screen. The lines are counted without end and their number is cut to 16 bits before the border is
added. -/

namespace TaskMonitor

/-! ## Lines of a text -/

namespace Text

/-- A line for each line feed, and one for what follows the last of them. -/
def lineCount (text : List Char) : Nat :=
  text.count '\n' + if text.getLastD '\n' = '\n' then 0 else 1

theorem length_linesFrom {read : List Char} (hread : '\n' ∉ read) (text : List Char) :
    (linesFrom read text).length =
      text.count '\n' + if text.getLastD (read.headD '\n') = '\n' then 0 else 1 := by
  induction text generalizing read with
  | nil =>
      cases read with
      | nil => rfl
      | cons c read =>
          have hc : c ≠ '\n' := fun h => hread (h ▸ .head _)
          simp [linesFrom, hc]
  | cons c rest ih =>
      rw [linesFrom, List.getLastD_cons]
      split
      next hc =>
        subst hc
        rw [List.length_cons, ih (List.not_mem_nil), List.count_cons_self, List.headD_nil]
        omega
      next hc =>
        have hnext : '\n' ∉ c :: read := by simp [hread, Ne.symm hc]
        rw [ih hnext, List.count_cons_of_ne hc, List.headD_cons]

theorem length_lines (text : String) : (lines text).length = lineCount text.toList := by
  rw [lines, List.length_map, length_linesFrom List.not_mem_nil, List.headD_nil, lineCount]

end Text

namespace Drawing.TaskDetail

/-! ## Lines of artifacts -/

/-- A part has a line of its own, and below it the lines of its content, or one in their place. -/
def partLineCount (p : ArtifactPart) : Nat :=
  1 + p.content.elim 1 fun content => Text.lineCount content.toList

/-- An artifact has a line of its own, and below it the lines of its parts. -/
def artifactLineCount (artifacts : List Artifact) : Nat :=
  artifacts.foldr (fun a n => 1 + a.parts.foldr (fun p m => partLineCount p + m) 0 + n) 0

theorem length_partLines (p : ArtifactPart) : (partLines p).length = partLineCount p := by
  have hcontent : ∀ content, p.content = some content →
      (partLines p).length = partLineCount p := fun content h => by
    simp [partLines, partLineCount, h, Text.length_lines, Nat.add_comm]
  cases hc : p.content with
  | some content => exact hcontent content hc
  | none => cases hu : p.uri <;> simp [partLines, partLineCount, hc, hu]

theorem length_artifactLines (a : Artifact) :
    (artifactLines a).length = 1 + a.parts.foldr (fun p m => partLineCount p + m) 0 := by
  rw [artifactLines, List.length_cons, length_flatMap_eq_foldr length_partLines, Nat.add_comm]

theorem length_flatMap_artifactLines (artifacts : List Artifact) :
    (artifacts.flatMap artifactLines).length = artifactLineCount artifacts :=
  length_flatMap_eq_foldr length_artifactLines artifacts

/-! ## Height -/

variable {artifacts : List Artifact} {r : Region}

def askedHeight (artifacts : List Artifact) (r : Region) : Nat :=
  artifactHeight (artifacts.flatMap artifactLines).length r.height

def artifactRegion (artifacts : List Artifact) (r : Region) : Region :=
  (r.stack taskHeight (askedHeight artifacts r)).2.2

def contentHeight (artifacts : List Artifact) (r : Region) : Nat :=
  if artifactLineCount artifacts = 0 then 0
  else min (artifactLineCount artifacts + 2) (r.height / 3)

/-- The panes of a task when that of its artifacts, which comes last, is to have a height. -/
def drawWith (height : Nat) (t : Task) (v : DetailView) (scroll : Nat) (g : Grid) (r : Region) :
    Grid :=
  let (top, middle, bottom) := r.stack taskHeight height
  let above := (eventPane v.events scroll middle.height).draw
    ((taskPane t v.streamStatus top.width).draw g top) middle
  if height = 0 then above else (artifactPane v.artifacts).draw above bottom

theorem drawTask_artifacts (t : Task) (v : DetailView) (scroll : Nat) (g : Grid) (r : Region) :
    drawTask t v scroll g r = drawWith (askedHeight v.artifacts r) t v scroll g r := rfl

theorem askedHeight_eq (artifacts : List Artifact) (r : Region) :
    askedHeight artifacts r = if artifactLineCount artifacts = 0 then 0
      else min ((artifactLineCount artifacts + 2) % halfWordLimit) (r.height / 3) := by
  rw [askedHeight, artifactHeight, length_flatMap_artifactLines]

theorem height_artifactRegion (artifacts : List Artifact) (r : Region) :
    (artifactRegion artifacts r).height = askedHeight artifacts r := by
  have hthird : askedHeight artifacts r ≤ r.height / 3 := by
    rw [askedHeight_eq]
    split <;> omega
  have hregion : (artifactRegion artifacts r).height = min (askedHeight artifacts r) r.height := rfl
  omega

/-- Cutting the lines changes a height only if it has room for more than is left of them. -/
theorem min_cut_eq_iff {lines room : Nat} (hsum : lines % halfWordLimit + 2 < halfWordLimit) :
    min ((lines + 2) % halfWordLimit) room = min (lines + 2) room ↔
      lines + 2 < halfWordLimit ∨ room ≤ lines % halfWordLimit + 2 := by
  have hcut : (lines + 2) % halfWordLimit = lines % halfWordLimit + 2 := by
    rw [← Nat.mod_add_mod, Nat.mod_eq_of_lt hsum]
  have hless := Nat.mod_le lines halfWordLimit
  have hwhole : lines % halfWordLimit = lines ↔ lines < halfWordLimit :=
    Nat.mod_eq_iff_lt (by decide)
  rw [hcut]
  omega

/-- The pane has the height that its content asks for and is drawn with it, and the sum that gives
it has 16 bits. -/
structure FitsContent (artifacts : List Artifact) (r : Region) : Prop where
  asked : askedHeight artifacts r = contentHeight artifacts r
  given : (artifactRegion artifacts r).height = contentHeight artifacts r
  drawn : ∀ t v scroll g, v.artifacts = artifacts →
    drawTask t v scroll g r = drawWith (contentHeight artifacts r) t v scroll g r
  sum : artifactLineCount artifacts % halfWordLimit + 2 < halfWordLimit

/-- This is so as long as the lines and the border have a number of 16 bits. With more lines it is
so only if those that are left of them when their number is cut are enough for a third of the
screen. -/
theorem fitsContent_iff (artifacts : List Artifact) (r : Region) :
    FitsContent artifacts r ↔
      artifactLineCount artifacts + 2 < halfWordLimit ∨
        r.height / 3 ≤ artifactLineCount artifacts % halfWordLimit + 2 ∧
          artifactLineCount artifacts % halfWordLimit + 2 < halfWordLimit := by
  have hasked := askedHeight_eq artifacts r
  constructor
  · rintro ⟨hfits, -, -, hsum⟩
    rw [hasked, contentHeight] at hfits
    split at hfits
    next hnone =>
      exact .inl (by rw [hnone]; decide)
    next =>
      exact ((min_cut_eq_iff hsum).mp hfits).imp_right fun hthird => ⟨hthird, hsum⟩
  · intro hfew
    have hsum : artifactLineCount artifacts % halfWordLimit + 2 < halfWordLimit := by
      rcases hfew with hfew | hfew
      · have hcut := Nat.mod_le (artifactLineCount artifacts) halfWordLimit
        omega
      · exact hfew.2
    have hcut := (min_cut_eq_iff hsum).mpr (hfew.imp_right And.left)
    have hfits : askedHeight artifacts r = contentHeight artifacts r := by
      rw [hasked, hcut, contentHeight]
    refine ⟨hfits, (height_artifactRegion artifacts r).trans hfits, ?_, hsum⟩
    rintro t v scroll g rfl
    rw [drawTask_artifacts, hfits]

def emptyLines (n : Nat) : Artifact :=
  ⟨⟨"a1"⟩, "notes", n, [⟨.text, "text/plain", some (String.ofList (List.replicate n '\n')), none⟩]⟩

theorem artifactLineCount_emptyLines (n : Nat) : artifactLineCount [emptyLines n] = n + 2 := by
  have hlast : (List.replicate n '\n').getLastD '\n' = '\n' := by
    rw [List.getLastD_eq_getLast?, List.getLast?_replicate]
    split <;> rfl
  have hlines : Text.lineCount (List.replicate n '\n') = n := by
    rw [Text.lineCount, List.count_replicate_self, hlast, if_pos rfl, Nat.add_zero]
  simp only [artifactLineCount, emptyLines, partLineCount, List.foldr_cons, List.foldr_nil,
    Option.elim_some, String.toList_ofList, hlines]
  omega

/-- With as many lines as there are numbers of 16 bits the pane is left with its border, and with
two less it is not drawn. -/
theorem many_lines_unshown :
    artifactLineCount [emptyLines 65534] = halfWordLimit ∧
      contentHeight [emptyLines 65534] ⟨0, 1, 80, 30⟩ = 10 ∧
      askedHeight [emptyLines 65534] ⟨0, 1, 80, 30⟩ = 2 ∧
      askedHeight [emptyLines 65532] ⟨0, 1, 80, 30⟩ = 0 ∧
      ¬ ∀ artifacts r, FitsContent artifacts r := by
  have hmany := artifactLineCount_emptyLines 65534
  have hless := artifactLineCount_emptyLines 65532
  have hcontent : contentHeight [emptyLines 65534] ⟨0, 1, 80, 30⟩ = 10 := by
    rw [contentHeight, hmany]
    rfl
  have hasked : askedHeight [emptyLines 65534] ⟨0, 1, 80, 30⟩ = 2 := by
    rw [askedHeight_eq, hmany]
    rfl
  refine ⟨hmany, hcontent, hasked, ?_, fun h => ?_⟩
  · rw [askedHeight_eq, hless]
    rfl
  · have hfits := (h [emptyLines 65534] ⟨0, 1, 80, 30⟩).asked
    omega

end Drawing.TaskDetail

end TaskMonitor
