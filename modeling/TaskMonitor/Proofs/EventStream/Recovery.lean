import TaskMonitor.Proofs.EventStream.TextLines

/-! # Frames are recovered from every way of sending them

Neither the order of the fields, nor comments and lines of other fields, nor the way lines end and
bytes come in chunks shows in the frames that are read. -/

namespace TaskMonitor.EventStream

/-! ## Sent lines -/

def SentLine.decoded (l : SentLine) : List Char := (Utf8.decodeLossy l.text).toList

/-- The lines send the frames. A comment or a line of another field may hold any bytes. -/
structure Sends (fs : List Frame) (ls : List SentLine) : Prop where
  whole : ∀ l ∈ ls, l.IsWhole
  split : ls.IsChain SentLine.Splits
  written : Written fs (ls.map SentLine.decoded)

theorem decoded_of_encoded {lines : List (List Char)} {ls : List SentLine}
    (htexts : ls.map (·.text) = lines.map Utf8.encode) : ls.map SentLine.decoded = lines := by
  have hdecoded : ls.map SentLine.decoded =
      (ls.map (·.text)).map fun text => (Utf8.decodeLossy text).toList := by
    rw [List.map_map]
    rfl
  rw [hdecoded, htexts, List.map_map]
  simp [Function.comp_def, Utf8.decodeLossy_encode]

/-- Any lines that write the frames send them, each ended as one likes but for what would join an
empty line to the one before it. -/
theorem sends_encoded {fs : List Frame} {lines : List (List Char)} {ls : List SentLine}
    (hwritten : Written fs lines) (htexts : ls.map (·.text) = lines.map Utf8.encode)
    (hsplit : ls.IsChain SentLine.Splits) : Sends fs ls where
  whole := isWhole_of_encoded hwritten.whole htexts
  split := hsplit
  written := (decoded_of_encoded htexts).symm ▸ hwritten

/-! ## Reading -/

theorem readLine_decoded (draft : Draft) (l : SentLine) :
    readLine draft (Utf8.encode l.decoded) = readLine draft l.text := by
  have hnil : Utf8.encode l.decoded = [] ↔ l.text = [] := by
    rw [Utf8.encode_eq_nil, SentLine.decoded, Utf8.decodeLossy, String.toList_ofList,
      decodeFrom_eq_nil]
    exact ⟨(·.2), fun h => ⟨rfl, h⟩⟩
  have htext : (Utf8.decodeLossy (Utf8.encode l.decoded)).toList =
      (Utf8.decodeLossy l.text).toList :=
    Utf8.decodeLossy_encode _
  simp only [readLine, hnil, htext]

theorem readLines_decoded (draft : Draft) (ls : List SentLine) :
    readLines draft ((ls.map SentLine.decoded).map Utf8.encode) =
      readLines draft (ls.map (·.text)) := by
  induction ls generalizing draft with
  | nil => rfl
  | cons l ls ih => simp only [List.map_cons, readLines, readLine_decoded, ih]

theorem frames_of_sends {fs : List Frame} {ls : List SentLine} (h : Sends fs ls)
    (hread : ∀ f ∈ fs, f.IsReadable) (hne : .empty ∉ fs) :
    frames (lineBytes ls) = fs.map Frame.received := by
  rw [frames_lineBytes h.whole h.split, ← readLines_decoded]
  exact readLines_written h.written hread hne

/-! ## Frames that can be sent -/

/-- The values of the frame can stand in lines: the event and the id in one, the data in several
that end in line feeds. It has some value. -/
structure Frame.IsSendable (f : Frame) : Prop where
  event : ∀ e, f.event = some e → isOneLine e.toList = true
  id : ∀ i, f.id = some i → isOneLine i.toList = true ∧ '\x00' ∉ i.toList
  data : '\r' ∉ f.data.toList
  retry : ∀ ms, f.retry = some ms → ms < wordLimit
  nonempty : f ≠ .empty

namespace Frame.IsSendable

variable {f : Frame}

theorem isReadable (h : f.IsSendable) : f.IsReadable := ⟨fun i hi => (h.id i hi).2, h.retry⟩

theorem received_eq (h : f.IsSendable) : f.received = f := by
  have hdata : f.data.toList.map (fun c => if isBreak c then '\n' else c) = f.data.toList := by
    refine (List.map_congr_left fun c hc => ?_).trans (List.map_id _)
    have hcr : c ≠ '\r' := fun heq => h.data (heq ▸ hc)
    by_cases hlf : c = '\n'
    · simp [hlf]
    · simp [isBreak, hlf, hcr]
  simp [received, hdata]

end Frame.IsSendable

theorem exists_sends {fs : List Frame} (hfs : ∀ f ∈ fs, f.IsSendable) : ∃ ls, Sends fs ls := by
  obtain ⟨lines, ls, hwritten, htexts, hsplit, -⟩ :=
    isRendering_render (fun f hf => (hfs f hf).event) fun f hf i hi => ((hfs f hf).id i hi).1
  exact ⟨ls, sends_encoded hwritten htexts hsplit⟩

theorem frames_of_isSendable {fs : List Frame} (hfs : ∀ f ∈ fs, f.IsSendable)
    {ls : List SentLine} (h : Sends fs ls) : frames (lineBytes ls) = fs := by
  rw [frames_of_sends h (fun f hf => (hfs f hf).isReadable) fun hmem => (hfs _ hmem).nonempty rfl]
  exact (List.map_congr_left fun f hf => (hfs f hf).received_eq).trans (List.map_id fs)

/-- Frames can be sent, and all lines that send them, in chunks of any kind, are read as the
frames; so two ways of sending them are read alike. -/
theorem pushAll_of_sends {fs : List Frame} (hfs : ∀ f ∈ fs, f.IsSendable) :
    (∃ ls, Sends fs ls) ∧
      (∀ ls, Sends fs ls → ∀ chunks : List (List UInt8), chunks.flatten = lineBytes ls →
        (Decoder.empty.pushAll chunks).2.flatten = fs) ∧
      ∀ ls ls', Sends fs ls → Sends fs ls' → ∀ chunks chunks' : List (List UInt8),
        chunks.flatten = lineBytes ls → chunks'.flatten = lineBytes ls' →
        (Decoder.empty.pushAll chunks).2.flatten = (Decoder.empty.pushAll chunks').2.flatten := by
  have hread : ∀ ls, Sends fs ls → ∀ chunks : List (List UInt8), chunks.flatten = lineBytes ls →
      (Decoder.empty.pushAll chunks).2.flatten = fs := by
    intro ls hsends chunks hchunks
    rw [Decoder.pushAll_flatten, hchunks]
    exact frames_of_isSendable hfs hsends
  refine ⟨exists_sends hfs, hread, fun ls ls' hsends hsends' chunks chunks' hchunks hchunks' => ?_⟩
  rw [hread ls hsends chunks hchunks, hread ls' hsends' chunks' hchunks']

/-! ## Lines of all kinds -/

/-- Data with blanks in front, an empty segment and a line feed at its end, and data that is a line
feed only. -/
def unevenFrames : List Frame :=
  [⟨some "ERROR", "  a\n\né\n", some "e1", some 15⟩, ⟨some "", "\n", none, none⟩]

/-- The frames among comments, one of them in bytes that are no text, and empty lines. -/
def unevenLines : List SentLine :=
  [⟨0x3A :: [0xFF], .lf⟩, ⟨[], .crlf⟩,
    ⟨Utf8.encode "data:   a".toList, .cr⟩, ⟨Utf8.encode "id: e1".toList, .crlf⟩,
    ⟨Utf8.encode "data: ".toList, .cr⟩, ⟨Utf8.encode "other: x".toList, .lf⟩,
    ⟨Utf8.encode "data: é".toList, .cr⟩, ⟨Utf8.encode "retry: 15".toList, .lf⟩,
    ⟨Utf8.encode "event: ERROR".toList, .lf⟩, ⟨Utf8.encode "data: ".toList, .cr⟩, ⟨[], .cr⟩,
    ⟨[], .crlf⟩,
    ⟨Utf8.encode "data: ".toList, .lf⟩, ⟨Utf8.encode "event: ".toList, .cr⟩,
    ⟨Utf8.encode "data: ".toList, .lf⟩, ⟨[], .lf⟩]

theorem uneven_frames_sent : Sends unevenFrames unevenLines where
  whole := by unfold SentLine.IsWhole; decide +kernel
  split := by unfold SentLine.Splits; decide +kernel
  written := by
    have hlines : unevenLines.map SentLine.decoded =
        [":\uFFFD".toList] ++ [] ::
          (["data:   a", "id: e1", "data: ", "other: x", "data: é", "retry: 15", "event: ERROR",
              "data: "].map String.toList ++ [] ::
            ([] ++ [] :: (["data: ", "event: ", "data: "].map String.toList ++ [] :: []))) := by
      decide +kernel
    rw [hlines]
    refine .pause ?_ (.frame ?_ (.pause ?_ (.frame ?_ (.rest ?_))))
    all_goals constructor <;> decide +kernel

theorem uneven_frames_recovered :
    (∀ f ∈ unevenFrames, f.IsSendable) ∧ Sends unevenFrames unevenLines ∧
      (Decoder.empty.pushAll ((lineBytes unevenLines).map ([·]))).2.flatten = unevenFrames := by
  have hfs : ∀ f ∈ unevenFrames, f.IsSendable := by
    intro f hf
    simp only [unevenFrames, List.mem_cons, List.not_mem_nil, or_false] at hf
    rcases hf with rfl | rfl
    all_goals constructor <;> simp [isOneLine, isBreak, wordLimit, Frame.empty]
  refine ⟨hfs, uneven_frames_sent, (pushAll_of_sends hfs).2.1 _ uneven_frames_sent _ ?_⟩
  rw [← List.flatMap_def, List.flatMap_singleton']

end TaskMonitor.EventStream
