import TaskMonitor.Proofs.EventStream.Blocks
import TaskMonitor.Proofs.Number.Unsigned

/-! # Frames as they are sent

The fields of a frame stand in lines of any order, among comments and lines of other fields. -/

namespace TaskMonitor.EventStream

/-! ## Lines of fields -/

def isBreak (c : Char) : Bool := c = '\n' || c = '\r'

def isOneLine (text : List Char) : Bool := text.all (!isBreak ·)

theorem isOneLine_iff {text : List Char} :
    isOneLine text = true ↔ ∀ c ∈ text, isBreak c = false := by
  simp [isOneLine]

def fieldLine (field : String) (value : List Char) : List Char :=
  field.toList ++ ':' :: ' ' :: value

def isOf (field : String) (line : List Char) : Bool := (splitField line).1 = field.toList

theorem splitField_fieldLine {field : String} (h : ':' ∉ field.toList) (value : List Char) :
    splitField (fieldLine field value) = (field.toList, value) := by
  have hname : (fieldLine field value).takeWhile (· ≠ ':') = field.toList := by
    have hpos : ∀ c ∈ field.toList, decide (c ≠ ':') = true := by
      intro c hc
      simpa using fun heq : c = ':' => h (heq ▸ hc)
    rw [fieldLine, List.takeWhile_append_of_pos hpos]
    simp
  have hrest : (fieldLine field value).drop field.toList.length = ':' :: ' ' :: value := by
    simp [fieldLine]
  simp only [splitField, hname, hrest]
  simp

theorem values_eq_map_filter (field : String) (lines : List (List Char)) :
    values field lines = (lines.filter (isOf field)).map fun line => (splitField line).2 := by
  induction lines with
  | nil => rfl
  | cons line lines ih =>
      by_cases h : (splitField line).1 = field.toList
      · simpa [values, value?, isOf, h] using ih
      · simpa [values, value?, isOf, h] using ih

theorem values_of_filter {field : String} (h : ':' ∉ field.toList) {lines vs : List (List Char)}
    (hlines : lines.filter (isOf field) = vs.map (fieldLine field)) : values field lines = vs := by
  rw [values_eq_map_filter, hlines, List.map_map]
  simp [Function.comp_def, splitField_fieldLine h]

/-! ## Frames -/

namespace Frame

def dataLines (f : Frame) : List (List Char) :=
  if f.data = "" then [] else f.data.toList.splitOnP isBreak

/-- The lines write the frame: the lines of each field are those of its values. -/
structure WrittenAs (f : Frame) (lines : List (List Char)) : Prop where
  whole : ∀ line ∈ lines, line ≠ [] ∧ isOneLine line = true
  event : lines.filter (isOf "event") = (f.event.map (·.toList)).toList.map (fieldLine "event")
  data : lines.filter (isOf "data") = f.dataLines.map (fieldLine "data")
  id : lines.filter (isOf "id") = (f.id.map (·.toList)).toList.map (fieldLine "id")
  retry : lines.filter (isOf "retry") =
    (f.retry.map (Nat.toDigits 10)).toList.map (fieldLine "retry")

/-- The values of the frame are ones that a reader takes. -/
structure IsReadable (f : Frame) : Prop where
  id : ∀ id, f.id = some id → '\x00' ∉ id.toList
  retry : ∀ ms, f.retry = some ms → ms < wordLimit

/-- The frame as it is received: all line breaks in its data have become line feeds. -/
def received (f : Frame) : Frame :=
  { f with data := String.ofList (f.data.toList.map fun c => if isBreak c then '\n' else c) }

@[simp] theorem received_id (f : Frame) : f.received.id = f.id := rfl

theorem isReadable_empty : Frame.empty.IsReadable := ⟨by simp [empty], by simp [empty]⟩

theorem received_eq_empty {f : Frame} : f.received = .empty ↔ f = .empty := by
  obtain ⟨event, data, id, retry⟩ := f
  simp [received, empty]

end Frame

/-! ## Reading what was written -/

theorem intercalate_splitOnP (p : Char → Bool) (text : List Char) :
    ['\n'].intercalate (text.splitOnP p) = text.map fun c => if p c then '\n' else c := by
  induction text with
  | nil => simp
  | cons c text ih =>
      rw [List.splitOnP_cons_eq_if_modifyHead, List.map_cons, ← ih]
      have hne := List.splitOnP_ne_nil p text
      cases hp : p c with
      | true => simp [List.intercalate_cons_of_ne_nil hne]
      | false =>
          obtain ⟨line, lines, hlines⟩ := List.exists_cons_of_ne_nil hne
          simp [hlines, List.intercalate_cons_cons_left]

theorem data_of_dataLines (f : Frame) :
    "\n".intercalate (f.dataLines.map String.ofList) = f.received.data := by
  by_cases h : f.data = ""
  · simp [Frame.dataLines, Frame.received, h]
  · apply String.toList_injective
    simp only [Frame.dataLines, Frame.received, h, if_false, String.toList_intercalate,
      List.map_map, Function.comp_def, String.toList_ofList, List.map_id']
    exact intercalate_splitOnP isBreak f.data.toList

theorem blockFrame_of_writtenAs {f : Frame} {lines : List (List Char)} (h : f.WrittenAs lines)
    (hf : f.IsReadable) : blockFrame lines = f.received := by
  obtain ⟨event, data, id, retry⟩ := f
  have hdata := values_of_filter (by decide) h.data
  simp only [blockFrame, values_of_filter (by decide) h.event, hdata,
    values_of_filter (by decide) h.id, values_of_filter (by decide) h.retry, data_of_dataLines]
  have hid : ((id.map (·.toList)).toList.filterMap idOf?).getLast? = id := by
    cases id with
    | none => rfl
    | some id => simp [idOf?, hf.id id rfl]
  have hretry : ((retry.map (Nat.toDigits 10)).toList.filterMap retryOf?).getLast? = retry := by
    cases retry with
    | none => rfl
    | some ms => simp [retryOf?, Unsigned.read_toDigits (hf.retry ms rfl), Except.toOption]
  rw [hid, hretry]
  cases event <;> simp [Frame.received]

/-! ## Streams -/

/-- The lines write the frames, each ended by an empty line. Where no field is written, nothing is
sent but comments. -/
inductive Written : List Frame → List (List Char) → Prop where
  | rest {block : List (List Char)} : Frame.empty.WrittenAs block → Written [] block
  | pause {fs : List Frame} {block lines : List (List Char)} :
      Frame.empty.WrittenAs block → Written fs lines → Written fs (block ++ [] :: lines)
  | frame {f : Frame} {fs : List Frame} {block lines : List (List Char)} :
      f.WrittenAs block → Written fs lines → Written (f :: fs) (block ++ [] :: lines)

theorem Written.whole {fs : List Frame} {lines : List (List Char)} (h : Written fs lines) :
    ∀ line ∈ lines, isOneLine line = true := by
  have hblock : ∀ {f : Frame} {block lines : List (List Char)}, f.WrittenAs block →
      (∀ line ∈ lines, isOneLine line = true) →
      ∀ line ∈ block ++ [] :: lines, isOneLine line = true := by
    intro f block lines hf hlines line hmem
    rcases List.mem_append.mp hmem with hmem | hmem
    · exact (hf.whole line hmem).2
    · rcases List.mem_cons.mp hmem with rfl | hmem
      · rfl
      · exact hlines line hmem
  induction h with
  | rest hf => exact fun line hmem => (hf.whole line hmem).2
  | pause hf _ ih => exact hblock hf ih
  | frame hf _ ih => exact hblock hf ih

theorem readLines_written_block {f : Frame} (hf : f.IsReadable) {block lines : List (List Char)}
    (h : f.WrittenAs block) :
    (readLines .empty ((block ++ [] :: lines).map Utf8.encode)).2 =
      (if f = .empty then [] else [f.received]) ++
        (readLines .empty (lines.map Utf8.encode)).2 := by
  have hlines : (block ++ [] :: lines).map Utf8.encode =
      (block.map Utf8.encode ++ [[]]) ++ lines.map Utf8.encode := by
    simp [Utf8.encode]
  rw [hlines, readLines_append, readLines_block_end fun line hmem => (h.whole line hmem).1,
    blockFrame_of_writtenAs h hf]
  simp only [Frame.received_eq_empty]

theorem readLines_written {fs : List Frame} {lines : List (List Char)} (h : Written fs lines)
    (hread : ∀ f ∈ fs, f.IsReadable) (hne : .empty ∉ fs) :
    (readLines .empty (lines.map Utf8.encode)).2 = fs.map Frame.received := by
  induction h with
  | rest hf => rw [readLines_block _ fun line hmem => (hf.whole line hmem).1]; rfl
  | pause hf _ ih =>
      rw [readLines_written_block Frame.isReadable_empty hf, ih hread hne]
      rfl
  | @frame f fs _ _ hf _ ih =>
      simp only [List.mem_cons, not_or] at hne
      rw [readLines_written_block (hread f (.head _)) hf, if_neg (Ne.symm hne.1),
        ih (fun g hmem => hread g (.tail _ hmem)) hne.2]
      rfl

/-- Bytes that send the frames. Lines end in any way that tells them apart. -/
def IsRendering (fs : List Frame) (bytes : List UInt8) : Prop :=
  ∃ (lines : List (List Char)) (ls : List SentLine), Written fs lines ∧
    ls.map (·.text) = lines.map Utf8.encode ∧ ls.IsChain SentLine.Splits ∧ bytes = lineBytes ls

theorem isWhole_of_encoded {lines : List (List Char)} {ls : List SentLine}
    (hlines : ∀ line ∈ lines, isOneLine line = true)
    (htexts : ls.map (·.text) = lines.map Utf8.encode) : ∀ l ∈ ls, l.IsWhole := by
  intro l hmem
  have htext : l.text ∈ lines.map Utf8.encode := by
    rw [← htexts]
    exact List.mem_map_of_mem hmem
  obtain ⟨line, hline, hencode⟩ := List.mem_map.mp htext
  have hnone := isOneLine_iff.mp (hlines line hline)
  rw [SentLine.IsWhole, ← hencode]
  constructor
  · intro hlf
    have hbreak := hnone _ (Utf8.mem_encode (n := 0x0A) (by decide) hlf)
    simp [isBreak] at hbreak
  · intro hcr
    have hbreak := hnone _ (Utf8.mem_encode (n := 0x0D) (by decide) hcr)
    simp [isBreak] at hbreak

/-- The frames that were sent are received. -/
theorem frames_of_isRendering {fs : List Frame} {bytes : List UInt8} (h : IsRendering fs bytes)
    (hread : ∀ f ∈ fs, f.IsReadable) (hne : .empty ∉ fs) :
    frames bytes = fs.map Frame.received := by
  obtain ⟨lines, ls, hwritten, htexts, hsplit, rfl⟩ := h
  have hwhole := isWhole_of_encoded hwritten.whole htexts
  rw [frames_lineBytes hwhole hsplit, htexts, readLines_written hwritten hread hne]

/-! ## A plain way of sending -/

def Frame.lines (f : Frame) : List (List Char) :=
  (f.event.map (·.toList)).toList.map (fieldLine "event") ++
    (f.id.map (·.toList)).toList.map (fieldLine "id") ++
    (f.retry.map (Nat.toDigits 10)).toList.map (fieldLine "retry") ++
    f.dataLines.map (fieldLine "data")

/-- Sends frames with a line feed at the end of each line. -/
def render (fs : List Frame) : List UInt8 :=
  lineBytes (fs.flatMap fun f => (f.lines ++ [[]]).map fun line => ⟨Utf8.encode line, .lf⟩)

theorem filter_isOf_fieldLine {field other : String} (h : ':' ∉ other.toList)
    (vs : List (List Char)) :
    (vs.map (fieldLine other)).filter (isOf field) =
      if other.toList = field.toList then vs.map (fieldLine other) else [] := by
  split
  next heq => simpa [isOf, splitField_fieldLine h] using fun _ _ => heq
  next hne => simpa [isOf, splitField_fieldLine h] using fun _ _ => hne

theorem isOneLine_of_mem_splitOnP {text line : List Char}
    (hline : line ∈ text.splitOnP isBreak) : isOneLine line = true := by
  induction text generalizing line with
  | nil =>
      obtain rfl : line = [] := by simpa using hline
      rfl
  | cons c text ih =>
      rw [List.splitOnP_cons_eq_if_modifyHead] at hline
      obtain ⟨first, rest, hsplit⟩ :=
        List.exists_cons_of_ne_nil (List.splitOnP_ne_nil isBreak text)
      rw [hsplit] at ih hline
      cases hc : isBreak c with
      | true =>
          simp only [hc, if_true, List.mem_cons] at hline
          rcases hline with rfl | hmem
          · rfl
          · exact ih (List.mem_cons.mpr hmem)
      | false =>
          simp only [hc, Bool.false_eq_true, if_false, List.modifyHead_cons, List.mem_cons] at hline
          rcases hline with rfl | hmem
          · simpa [isOneLine, hc] using ih (.head _)
          · exact ih (.tail _ hmem)

theorem fieldLine_whole {field : String} (hfield : isOneLine field.toList = true)
    {value : List Char} (hvalue : isOneLine value = true) :
    fieldLine field value ≠ [] ∧ isOneLine (fieldLine field value) = true := by
  refine ⟨by simp [fieldLine], ?_⟩
  simp only [isOneLine, fieldLine, List.all_append, List.all_cons, Bool.and_eq_true]
  exact ⟨hfield, rfl, rfl, hvalue⟩

theorem isOneLine_toDigits (n : Nat) : isOneLine (Nat.toDigits 10 n) = true := by
  rw [isOneLine_iff]
  intro c hc
  have hdigit := Nat.isDigit_of_mem_toDigits (by omega) (by omega) hc
  cases hbreak : isBreak c with
  | false => rfl
  | true =>
      rcases (by simpa [isBreak] using hbreak : c = '\n' ∨ c = '\r') with rfl | rfl
      · simp at hdigit
      · simp at hdigit

theorem Frame.writtenAs_lines {f : Frame}
    (hevent : ∀ e, f.event = some e → isOneLine e.toList = true)
    (hid : ∀ i, f.id = some i → isOneLine i.toList = true) : f.WrittenAs f.lines where
  whole := by
    intro line hline
    simp only [lines, List.mem_append, List.mem_map, Option.mem_toList, Option.map_eq_some_iff]
      at hline
    obtain ((⟨_, ⟨e, he, rfl⟩, rfl⟩ | ⟨_, ⟨i, hi, rfl⟩, rfl⟩) | ⟨_, ⟨ms, -, rfl⟩, rfl⟩) |
      ⟨value, hvalue, rfl⟩ := hline
    · exact fieldLine_whole (by decide) (hevent e he)
    · exact fieldLine_whole (by decide) (hid i hi)
    · exact fieldLine_whole (by decide) (isOneLine_toDigits ms)
    · refine fieldLine_whole (by decide) ?_
      by_cases hdata : f.data = ""
      · simp [dataLines, hdata] at hvalue
      · rw [dataLines, if_neg hdata] at hvalue
        exact isOneLine_of_mem_splitOnP hvalue
  event := by simp [lines, filter_isOf_fieldLine]
  data := by simp [lines, filter_isOf_fieldLine]
  id := by simp [lines, filter_isOf_fieldLine]
  retry := by simp [lines, filter_isOf_fieldLine]

theorem isRendering_render {fs : List Frame}
    (hevent : ∀ f ∈ fs, ∀ e, f.event = some e → isOneLine e.toList = true)
    (hid : ∀ f ∈ fs, ∀ i, f.id = some i → isOneLine i.toList = true) :
    IsRendering fs (render fs) := by
  have hempty : Frame.empty.WrittenAs [] := by
    constructor <;> simp [Frame.empty, Frame.dataLines]
  refine ⟨fs.flatMap fun f => f.lines ++ [[]], _, ?_, ?_, ?_, rfl⟩
  · induction fs with
    | nil => exact .rest hempty
    | cons f fs ih =>
        have hrest := ih (fun g hg => hevent g (.tail _ hg)) (fun g hg => hid g (.tail _ hg))
        have hf := Frame.writtenAs_lines (hevent f (.head _)) (hid f (.head _))
        simpa using Written.frame hf hrest
  · simp [List.map_flatMap, Function.comp_def]
  · -- No line ends with a carriage return.
    have hlf : ∀ l ∈ fs.flatMap fun f => (f.lines ++ [[]]).map fun line =>
        (⟨Utf8.encode line, .lf⟩ : SentLine), l.ending = .lf := by
      simp only [List.mem_flatMap, List.mem_map]
      rintro l ⟨f, -, line, -, rfl⟩
      rfl
    refine List.Pairwise.isChain (List.pairwise_iff_getElem.mpr fun i j hi hj _ hcr => ?_)
    exact absurd ((hlf _ (List.getElem_mem hi)).symm.trans hcr) (by decide)

end TaskMonitor.EventStream
