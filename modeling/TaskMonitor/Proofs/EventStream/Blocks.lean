import TaskMonitor.Proofs.EventStream.Lines
import TaskMonitor.Proofs.Text.Utf8

/-! # What the lines of a frame say

Of each field that may stand once the last value counts; the data is all of its values. -/

namespace TaskMonitor.EventStream

/-! ## Values -/

def value? (field : String) (line : List Char) : Option (List Char) :=
  if (splitField line).1 = field.toList then some (splitField line).2 else none

def values (field : String) (lines : List (List Char)) : List (List Char) :=
  lines.filterMap (value? field)

/-- An id holds no null character. -/
def idOf? (value : List Char) : Option String :=
  if value.contains '\x00' then none else some (String.ofList value)

/-- A delay is a number of 64 bits. -/
def retryOf? (value : List Char) : Option Nat := (Unsigned.read value).toOption

def blockFrame (lines : List (List Char)) : Frame where
  event := (values "event" lines).getLast?.map String.ofList
  data := "\n".intercalate ((values "data" lines).map String.ofList)
  id := ((values "id" lines).filterMap idOf?).getLast?
  retry := ((values "retry" lines).filterMap retryOf?).getLast?

/-! ## Reading the lines -/

theorem value?_comment {field : String} (hfield : field.toList ≠ []) {line : List Char}
    (h : line.head? = some ':') : value? field line = none := by
  obtain ⟨rest, rfl⟩ := List.head?_eq_some_iff.mp h
  simp [value?, splitField, Ne.symm hfield]

theorem Draft.addLine_eq (d : Draft) (line : List Char) :
    d.addLine line =
      { event := ((value? "event" line).map String.ofList).or d.event
        data := ((value? "data" line).map String.ofList).toList ++ d.data
        id := ((value? "id" line).bind idOf?).or d.id
        retry := ((value? "retry" line).bind retryOf?).or d.retry } := by
  by_cases hcomment : line.head? = some ':'
  · have hnone (field : String) (hfield : field.toList ≠ []) := value?_comment hfield hcomment
    rw [addLine, if_pos hcomment, hnone "event" (by decide), hnone "data" (by decide),
      hnone "id" (by decide), hnone "retry" (by decide)]
    rfl
  cases hsplit : splitField line with
  | mk name value =>
      simp only [addLine, hcomment, if_false, value?, hsplit]
      by_cases hevent : name = "event".toList
      · simp [hevent]
      by_cases hdata : name = "data".toList
      · simp [hdata]
      by_cases hid : name = "id".toList
      · cases hnull : value.contains '\x00' with
        | true => simp_all [idOf?]
        | false => simp_all [idOf?]
      by_cases hretry : name = "retry".toList
      · cases hread : Unsigned.read value with
        | ok ms => simp [hretry, hread, retryOf?, Except.toOption]
        | error e => simp [hretry, hread, retryOf?, Except.toOption]
      simp only [hevent, hdata, hid, hretry, if_false]
      rfl

theorem getLast?_filterMap_cons_or {α β : Type} (write : α → Option β) (a : α) (as : List α)
    (b : Option β) :
    ((a :: as).filterMap write).getLast?.or b =
      (as.filterMap write).getLast?.or ((write a).or b) := by
  cases hwrite : write a with
  | none => simp [hwrite]
  | some value =>
      rw [List.filterMap_cons_some hwrite, List.getLast?_cons, Option.some_or]
      cases (as.filterMap write).getLast? with
      | none => rfl
      | some last => rfl

/-- What each line may overwrite is in the end what the last line wrote that did. -/
theorem foldl_overwrite {σ α β : Type} {step : σ → α → σ} (get : σ → Option β)
    (write : α → Option β) (h : ∀ s a, get (step s a) = (write a).or (get s)) (as : List α)
    (s : σ) : get (as.foldl step s) = (as.filterMap write).getLast?.or (get s) := by
  induction as generalizing s with
  | nil => rfl
  | cons a as ih => rw [List.foldl_cons, ih, h, getLast?_filterMap_cons_or]

theorem data_foldl_addLine (d : Draft) (lines : List (List Char)) :
    (lines.foldl Draft.addLine d).data =
      ((values "data" lines).map String.ofList).reverse ++ d.data := by
  induction lines generalizing d with
  | nil => simp [values]
  | cons line lines ih =>
      rw [List.foldl_cons, ih, Draft.addLine_eq]
      cases hvalue : value? "data" line <;> simp [values, hvalue]

theorem event_foldl_addLine (lines : List (List Char)) :
    (lines.foldl Draft.addLine .empty).event = (blockFrame lines).event := by
  rw [foldl_overwrite (fun d : Draft => d.event) _
    (fun d line => congrArg (·.event) (d.addLine_eq line))]
  simp only [blockFrame, values, ← List.getLast?_map, List.map_filterMap, Draft.empty,
    Option.or_none]

theorem id_foldl_addLine (lines : List (List Char)) :
    (lines.foldl Draft.addLine .empty).id = (blockFrame lines).id := by
  rw [foldl_overwrite (fun d : Draft => d.id) _
    (fun d line => congrArg (·.id) (d.addLine_eq line))]
  simp only [blockFrame, values, List.filterMap_filterMap, Draft.empty, Option.or_none]

theorem retry_foldl_addLine (lines : List (List Char)) :
    (lines.foldl Draft.addLine .empty).retry = (blockFrame lines).retry := by
  rw [foldl_overwrite (fun d : Draft => d.retry) _
    (fun d line => congrArg (·.retry) (d.addLine_eq line))]
  simp only [blockFrame, values, List.filterMap_filterMap, Draft.empty, Option.or_none]

/-- The lines of a block complete the frame of the block, unless it is the empty one. -/
theorem frame?_foldl_addLine (lines : List (List Char)) :
    (lines.foldl Draft.addLine .empty).frame? =
      if blockFrame lines = .empty then none else some (blockFrame lines) := by
  have hframe : Frame.mk (lines.foldl Draft.addLine .empty).event
      ("\n".intercalate (lines.foldl Draft.addLine .empty).data.reverse)
      (lines.foldl Draft.addLine .empty).id (lines.foldl Draft.addLine .empty).retry =
        blockFrame lines := by
    rw [event_foldl_addLine, id_foldl_addLine, retry_foldl_addLine, data_foldl_addLine]
    simp [Draft.empty, blockFrame]
  simp only [Draft.frame?, hframe]

theorem readLines_block (draft : Draft) {lines : List (List Char)}
    (hne : ∀ line ∈ lines, line ≠ []) :
    readLines draft (lines.map Utf8.encode) = (lines.foldl Draft.addLine draft, []) := by
  induction lines generalizing draft with
  | nil => rfl
  | cons line lines ih =>
      have hline := hne line (.head _)
      simp [readLines, readLine, hline, Utf8.decodeLossy_encode,
        ih _ fun line hmem => hne line (.tail _ hmem)]

theorem readLines_block_end {lines : List (List Char)} (hne : ∀ line ∈ lines, line ≠ []) :
    readLines .empty (lines.map Utf8.encode ++ [[]]) =
      (.empty, if blockFrame lines = .empty then [] else [blockFrame lines]) := by
  rw [readLines_append, readLines_block _ hne]
  simp only [readLines, readLine, if_true, List.nil_append, List.append_nil, Prod.mk.injEq,
    true_and]
  rw [frame?_foldl_addLine]
  split <;> rfl

end TaskMonitor.EventStream
