import Mathlib.Data.List.TakeDrop
import TaskMonitor.Proofs.EventStream.TextLines

/-! # The interpretation of an event stream

The bytes of a stream are one text. Its lines fill two buffers, the type and the data of the next
message, and an empty line sends the message off. -/

namespace TaskMonitor.EventStream

/-! ## Messages -/

structure Message where
  channel : String
  data : String
  deriving DecidableEq, Repr

def Frame.message? (f : Frame) : Option Message :=
  if f.hasData then some ⟨f.channel, f.data⟩ else none

/-- The message with the channel it has by right, if it was sent to the channel without a name. -/
def Message.named (m : Message) : Message :=
  if m.channel = "" then { m with channel := Frame.defaultChannel } else m

theorem Message.named_data (m : Message) : m.named.data = m.data := by
  unfold named
  split <;> rfl

theorem Message.named_eq_self {m : Message} : m.named = m ↔ m.channel ≠ "" := by
  obtain ⟨channel, data⟩ := m
  by_cases h : channel = ""
  · simp [named, h, Frame.defaultChannel]
  · simp [named, h]

theorem channel_ne_of_message? {f : Frame} {m : Message} (h : f.event ≠ some "")
    (hm : f.message? = some m) : m.channel ≠ "" := by
  obtain ⟨-, rfl⟩ : f.hasData = true ∧ (⟨f.channel, f.data⟩ : Message) = m := by
    simpa [Frame.message?] using hm
  obtain ⟨event, data, id, retry⟩ := f
  cases event with
  | none => simp [Frame.channel, Frame.defaultChannel]
  | some event => simpa [Frame.channel] using h

/-! ## Buffers -/

/-- Parts a line at its first colon. One blank after the colon is left out. -/
def fieldOf (line : List Char) : List Char × List Char :=
  match line.span (· ≠ ':') with
  | (name, _ :: ' ' :: value) => (name, value)
  | (name, rest) => (name, rest.tail)

structure Buffers where
  eventType : List Char
  data : List Char
  deriving DecidableEq, Repr

namespace Buffers

def empty : Buffers := ⟨[], []⟩

/-- What a line with a field does. Ids and delays are no part of a message. -/
def process (b : Buffers) (line : List Char) : Buffers :=
  if line.head? = some ':' then b
  else
    match fieldOf line with
    | (name, value) =>
      if name = "event".toList then { b with eventType := value }
      else if name = "data".toList then { b with data := b.data ++ value ++ ['\n'] }
      else b

/-- The message that an empty line sends off. The line feed after the data is none of it. -/
def dispatch (b : Buffers) : Option Message :=
  if b.data = [] then none
  else
    some ⟨if b.eventType = [] then Frame.defaultChannel else String.ofList b.eventType,
      String.ofList b.data.dropLast⟩

def messages (b : Buffers) : List (List Char) → List Message
  | [] => []
  | line :: rest =>
    if line = [] then b.dispatch.toList ++ empty.messages rest
    else (b.process line).messages rest

end Buffers

def byteOrderMark : List UInt8 := [0xEF, 0xBB, 0xBF]

/-- The text of a stream. A byte order mark in front of it is no text. -/
def decode (bytes : List UInt8) : List Char :=
  Utf8.decodeFrom none
    (if byteOrderMark <+: bytes then bytes.drop byteOrderMark.length else bytes)

def interpretation (bytes : List UInt8) : List Message :=
  Buffers.empty.messages (textLines (decode bytes))

/-! ## Frames of lines -/

theorem readEnded_snd (draft : Draft) (ls : List EndedLine) :
    (readEnded draft ls).map (·.2) = (readLines draft (ls.map (·.text))).2 := by
  induction ls generalizing draft with
  | nil => rfl
  | cons l ls ih => simp [readEnded, readLines, ih, Function.comp_def]

theorem frames_eq (bytes : List UInt8) :
    frames bytes = (readLines .empty ((linesFrom 0 bytes).map (·.text))).2 := by
  have hlines := Decoder.completions_eq [] .empty 0 bytes
  rw [readEnded_prepend_nil] at hlines
  rw [frames, Decoder.push_snd _ 0, ← readEnded_snd, ← hlines]
  rfl

/-! ## Fields as buffers -/

theorem fieldOf_eq (line : List Char) : fieldOf line = splitField line := by
  by_cases hcolon : ':' ∈ line
  · obtain ⟨name, rest, rfl, hname⟩ := List.eq_append_cons_of_mem hcolon
    have hpos : ∀ c ∈ name, decide (c ≠ ':') = true := by
      intro c hc
      simpa using fun heq : c = ':' => hname (heq ▸ hc)
    have hspan : (name ++ ':' :: rest).span (· ≠ ':') = (name, ':' :: rest) := by
      rw [List.span_eq_takeWhile_dropWhile, List.takeWhile_append_of_pos hpos,
        List.dropWhile_append_of_pos hpos]
      simp
    rw [splitField_colon hname, fieldOf, hspan]
    split
    next heq => simp_all
    next hother heq =>
      obtain ⟨rfl, rfl⟩ := Prod.mk.inj heq
      have hblank : rest.head? ≠ some ' ' := by
        intro hblank
        obtain ⟨value, rfl⟩ := List.head?_eq_some_iff.mp hblank
        exact hother _ _ rfl
      simp [hblank]
  · have hpos : ∀ c ∈ line, decide (c ≠ ':') = true := by
      intro c hc
      simpa using fun heq : c = ':' => hcolon (heq ▸ hc)
    have hspan : line.span (· ≠ ':') = (line, []) := by
      rw [List.span_eq_takeWhile_dropWhile, List.takeWhile_eq_self_iff.mpr hpos,
        List.dropWhile_eq_nil_iff.mpr hpos]
    rw [splitField_bare hcolon, fieldOf, hspan]
    rfl

def Draft.buffers (d : Draft) : Buffers where
  eventType := (d.event.getD "").toList
  data := d.data.reverse.flatMap fun value => value.toList ++ ['\n']

theorem Draft.buffers_addLine (d : Draft) (line : List Char) :
    (d.addLine line).buffers = d.buffers.process line := by
  rw [addLine, Buffers.process, fieldOf_eq]
  split
  · rfl
  obtain ⟨name, value⟩ := splitField line
  simp only
  split
  · simp [buffers]
  split
  · simp [buffers]
  split
  · split <;> rfl
  split
  · split <;> rfl
  · rfl

theorem toList_intercalate_append (lines : List String) (h : lines ≠ []) :
    ("\n".intercalate lines).toList ++ ['\n'] =
      lines.flatMap fun line => line.toList ++ ['\n'] := by
  induction lines with
  | nil => exact absurd rfl h
  | cons line lines ih =>
      cases lines with
      | nil => simp
      | cons next lines => simpa [String.intercalate_cons_cons] using ih (by simp)

theorem Buffers.dispatch_concat (event : Option String) (data : String) :
    dispatch ⟨(event.getD "").toList, data.toList ++ ['\n']⟩ =
      some (Message.named ⟨event.getD Frame.defaultChannel, data⟩) := by
  cases event with
  | none => simp [dispatch, Message.named, Frame.defaultChannel]
  | some event => by_cases h : event = "" <;> simp [dispatch, Message.named, h]

theorem Draft.dispatch_buffers (d : Draft) :
    d.buffers.dispatch.filter (·.data ≠ "") = (d.frame?.bind Frame.message?).map Message.named := by
  obtain ⟨event, data, id, retry⟩ := d
  have hframe : (frame? ⟨event, data, id, retry⟩).bind Frame.message? =
      Frame.message? ⟨event, "\n".intercalate data.reverse, id, retry⟩ := by
    simp only [frame?]
    split
    next heq => rw [heq]; rfl
    next => rfl
  rw [hframe]
  by_cases hdata : data.reverse = []
  · simp [Buffers.dispatch, buffers, Frame.message?, Frame.hasData, hdata]
  · have hline := toList_intercalate_append data.reverse hdata
    have hdispatch : (buffers ⟨event, data, id, retry⟩).dispatch =
        some (Message.named ⟨event.getD Frame.defaultChannel, "\n".intercalate data.reverse⟩) := by
      rw [← Buffers.dispatch_concat, buffers, hline]
    rw [hdispatch]
    by_cases hempty : "\n".intercalate data.reverse = ""
    · simp [Frame.message?, Frame.hasData, Message.named_data, hempty]
    · simp [Frame.message?, Frame.hasData, Frame.channel, Message.named_data, hempty]

theorem messages_buffers (d : Draft) (lines : List (List UInt8)) :
    (d.buffers.messages (lines.map (Utf8.decodeFrom none ·))).filter (·.data ≠ "") =
      ((readLines d lines).2.filterMap Frame.message?).map Message.named := by
  induction lines generalizing d with
  | nil => rfl
  | cons text lines ih =>
      rw [List.map_cons, Buffers.messages, readLines]
      by_cases htext : text = []
      · have hnone : Utf8.decodeFrom none text = [] := decodeFrom_eq_nil.mpr ⟨rfl, htext⟩
        have hfirst : (d.buffers.dispatch.toList).filter (·.data ≠ "") =
            (d.frame?.toList.filterMap Frame.message?).map Message.named := by
          rw [← Option.toList_filter, d.dispatch_buffers, Option.toList_map]
          cases d.frame? with
          | none => rfl
          | some f => cases hmessage : f.message? <;> simp [hmessage]
        rw [if_pos hnone, List.filter_append, readLine, if_pos htext, hfirst, List.filterMap_append,
          List.map_append]
        exact congrArg (_ ++ ·) (ih .empty)
      · have hsome : Utf8.decodeFrom none text ≠ [] := by simp [decodeFrom_eq_nil, htext]
        rw [if_neg hsome, ← Draft.buffers_addLine, readLine, if_neg htext]
        simpa [Utf8.decodeLossy] using ih (d.addLine (Utf8.decodeFrom none text))

/-! ## Streams -/

/-- Frames name the channel without a name only after a line that gives the event no value. -/
theorem event_ne_of_readLines {d : Draft} (hd : d.event ≠ some "") {lines : List (List UInt8)}
    (h : ∀ text ∈ lines, ¬ Says "event" (Utf8.decodeFrom none text) []) :
    ∀ f ∈ (readLines d lines).2, f.event ≠ some "" := by
  induction lines generalizing d with
  | nil => simp [readLines]
  | cons text lines ih =>
      have hrest {d' : Draft} (hd' : d'.event ≠ some "") :=
        ih hd' fun text hmem => h text (.tail _ hmem)
      intro f hf
      rw [readLines, List.mem_append] at hf
      by_cases htext : text = []
      · simp only [readLine, if_pos htext] at hf
        rcases hf with hf | hf
        · have hevent : f.event = d.event := by
            simp only [Draft.frame?] at hf
            split at hf
            · simp at hf
            · rw [List.mem_singleton.mp hf]
          rwa [hevent]
        · exact hrest (by simp [Draft.empty]) f hf
      · simp only [readLine, if_neg htext, List.not_mem_nil, false_or] at hf
        refine hrest ?_ f hf
        have hline := h text (.head _)
        rw [← value?_eq_some_iff (by decide)] at hline
        simp only [Draft.addLine_eq, Utf8.decodeLossy, String.toList_ofList]
        cases hvalue : value? "event" (Utf8.decodeFrom none text) with
        | none => simpa using hd
        | some value =>
            have hne : value ≠ [] := by simpa [hvalue] using hline
            simpa using hne

variable {bytes : List UInt8}

theorem lines_decode (h : ¬ byteOrderMark <+: bytes) :
    textLines (decode bytes) = (linesFrom 0 bytes).map (Utf8.decodeFrom none ·.text) := by
  rw [decode, if_neg h, textLines_decodeFrom]

/-- The frames of a stream are the messages of its interpretation, save for their channels: a frame
may name an empty channel, and a message never does. -/
theorem interpretation_eq (h : ¬ byteOrderMark <+: bytes) :
    (interpretation bytes).filter (·.data ≠ "") =
      ((frames bytes).filterMap Frame.message?).map Message.named := by
  have hlines := messages_buffers .empty ((linesFrom 0 bytes).map (·.text))
  rw [List.map_map] at hlines
  rw [interpretation, lines_decode h, frames_eq]
  exact hlines

theorem event_ne_of_lines (h : ¬ byteOrderMark <+: bytes)
    (hevent : ∀ line ∈ textLines (decode bytes), ¬ Says "event" line []) :
    ∀ f ∈ frames bytes, f.event ≠ some "" := by
  rw [frames_eq]
  refine event_ne_of_readLines (by simp [Draft.empty]) fun text htext => ?_
  obtain ⟨l, hl, rfl⟩ := List.mem_map.mp htext
  refine hevent _ ?_
  rw [lines_decode h]
  exact List.mem_map_of_mem hl

end TaskMonitor.EventStream
