import TaskMonitor.Proofs.EventStream.Interpretation
import TaskMonitor.Proofs.Stream.Subscription

/-! # Messages of a connection

A subscription hands out the messages of what it reads, apart from those without data. -/

namespace TaskMonitor

open EventStream (Message Frame frames interpretation byteOrderMark textLines Says)

def Signal.asMessage? : Signal → Option Message
  | .message channel data => some ⟨channel, data⟩
  | _ => none

namespace Subscription

variable {s : Subscription} {chunks : List (List UInt8)}

def messages (s : Subscription) (chunks : List (List UInt8)) (ending : Ending) : List Message :=
  (s.connected (.accepted chunks ending)).2.drain.1.filterMap Signal.asMessage?

theorem messages_eq {delay : Nat} (h : s.delay? = some delay) (ending : Ending) :
    s.messages chunks ending = (frames chunks.flatten).filterMap Frame.message? := by
  have hpending : s.pending = [] := by
    cases hpending : s.pending with
    | nil => rfl
    | cons x rest => simp [delay?, hpending] at h
  have hread := drain_reading .empty chunks ending hpending
  have hending : ending.signals.filterMap Signal.asMessage? = [] := by cases ending <;> rfl
  have hmessage (f : Frame) : (message? f).bind Signal.asMessage? = f.message? := by
    unfold message? Frame.message?
    split <;> rfl
  simp only [messages, connected, hread, List.filterMap_append, hending, List.append_nil,
    List.filterMap_filterMap, hmessage]
  rfl

/-- Whatever the chunks, the messages are those of the interpretation of all bytes, apart from those
without data. Only their channels may differ: a line that gives the event an empty value makes the
channel empty, and not the default one. -/
theorem messages_interpreted {delay : Nat} (h : s.delay? = some delay) (ending : Ending)
    (hmark : ¬ byteOrderMark <+: chunks.flatten) :
    let interpreted := (interpretation chunks.flatten).filter (·.data ≠ "")
    (s.messages chunks ending).map Message.named = interpreted ∧
      ((∀ line ∈ textLines (EventStream.decode chunks.flatten), ¬ Says "event" line []) →
        s.messages chunks ending = interpreted) := by
  intro interpreted
  have hnamed : (s.messages chunks ending).map Message.named = interpreted := by
    rw [messages_eq h]
    exact (EventStream.interpretation_eq hmark).symm
  refine ⟨hnamed, fun hevent => ?_⟩
  have hself : ∀ m ∈ s.messages chunks ending, m.named = m := by
    intro m hm
    rw [messages_eq h, List.mem_filterMap] at hm
    obtain ⟨f, hf, hmessage⟩ := hm
    have hne := EventStream.event_ne_of_lines hmark hevent f hf
    exact Message.named_eq_self.mpr (EventStream.channel_ne_of_message? hne hmessage)
  rw [← hnamed, List.map_congr_left hself, List.map_id']

/-! ### An empty channel -/

def nameless : List UInt8 := Utf8.encode "event\ndata: x\n\n".toList

theorem nameless_interpreted :
    let s := start "http://gw/stream" 3000
    s.delay? = some 0 ∧ ¬ byteOrderMark <+: [nameless].flatten ∧
      (s.messages [nameless] .complete).map Message.named = [⟨"message", "x"⟩] := by
  intro s
  have hdelay : s.delay? = some 0 := rfl
  have hmark : ¬ byteOrderMark <+: [nameless].flatten := by decide +kernel
  refine ⟨hdelay, hmark, ?_⟩
  rw [(messages_interpreted hdelay .complete hmark).1]
  decide +kernel

theorem nameless_on_empty_channel :
    ¬ byteOrderMark <+: nameless ∧
      (start "http://gw/stream" 3000).messages [nameless] .complete = [⟨"", "x"⟩] ∧
      (interpretation nameless).filter (·.data ≠ "") = [⟨"message", "x"⟩] := by
  have hdelay : (start "http://gw/stream" 3000).delay? = some 0 := rfl
  rw [messages_eq hdelay]
  decide +kernel

end Subscription

end TaskMonitor
