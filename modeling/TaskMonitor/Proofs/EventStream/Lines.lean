import Mathlib.Data.List.Chain
import TaskMonitor.EventStream.Basic

/-! # Chunks and lines of an event stream

The frames of a stream depend neither on its chunks nor on the way its lines end. -/

namespace TaskMonitor.EventStream

/-! ## Chunks -/

/-- The frames that a stream has completed after these bytes. -/
def frames (bytes : List UInt8) : List Frame := (Decoder.empty.push bytes).2

namespace Decoder

theorem push_cons (d : Decoder) (b : UInt8) (rest : List UInt8) :
    d.push (b :: rest) =
      (((d.step b).1.push rest).1, (d.step b).2 ++ ((d.step b).1.push rest).2) := rfl

theorem push_append (d : Decoder) (xs ys : List UInt8) :
    d.push (xs ++ ys) =
      (((d.push xs).1.push ys).1, (d.push xs).2 ++ ((d.push xs).1.push ys).2) := by
  induction xs generalizing d with
  | nil => rfl
  | cons b xs ih => simp [push_cons, ih]

end Decoder

theorem frames_prefix {xs ys : List UInt8} (h : xs <+: ys) : frames xs <+: frames ys := by
  obtain ⟨rest, rfl⟩ := h
  simp [frames, Decoder.push_append]

/-! ## Lines -/

inductive LineEnd where
  | lf
  | crlf
  | cr
  deriving DecidableEq, Repr

def LineEnd.bytes : LineEnd → List UInt8
  | lf => [0x0A]
  | crlf => [0x0D, 0x0A]
  | cr => [0x0D]

structure SentLine where
  text : List UInt8
  ending : LineEnd
  deriving DecidableEq, Repr

namespace SentLine

def bytes (l : SentLine) : List UInt8 := l.text ++ l.ending.bytes

def IsWhole (l : SentLine) : Prop := 0x0A ∉ l.text ∧ 0x0D ∉ l.text

/-- The two lines are told apart: a line feed right after a carriage return would end no line. -/
def Splits (l next : SentLine) : Prop := l.ending = .cr → next.text = [] → next.ending ≠ .lf

end SentLine

def lineBytes (ls : List SentLine) : List UInt8 := ls.flatMap SentLine.bytes

/-- What a line does to the fields of the frame that it belongs to, and the frame that it
completes. -/
def readLine (draft : Draft) (text : List UInt8) : Draft × List Frame :=
  if text = [] then (.empty, draft.frame?.toList)
  else (draft.addLine (Utf8.decodeLossy text).toList, [])

def readLines (draft : Draft) : List (List UInt8) → Draft × List Frame
  | [] => (draft, [])
  | text :: rest =>
    let (draft, first) := readLine draft text
    let (draft, more) := readLines draft rest
    (draft, first ++ more)

theorem readLines_append (draft : Draft) (xs ys : List (List UInt8)) :
    readLines draft (xs ++ ys) =
      ((readLines (readLines draft xs).1 ys).1,
        (readLines draft xs).2 ++ (readLines (readLines draft xs).1 ys).2) := by
  induction xs generalizing draft with
  | nil => rfl
  | cons text xs ih => simp [readLines, ih]

namespace Decoder

theorem step_text (d : Decoder) {b : UInt8} (hlf : b ≠ 0x0A) (hcr : b ≠ 0x0D) :
    d.step b = ({ d with line := b :: d.line, afterReturn := false }, []) := by
  simp [step, hlf, hcr]

theorem push_text (d : Decoder) {text : List UInt8} (hne : text ≠ []) (hlf : 0x0A ∉ text)
    (hcr : 0x0D ∉ text) :
    d.push text = ({ d with line := text.reverse ++ d.line, afterReturn := false }, []) := by
  induction text generalizing d with
  | nil => exact absurd rfl hne
  | cons b text ih =>
      simp only [List.mem_cons, not_or] at hlf hcr
      rw [push_cons, step_text d (Ne.symm hlf.1) (Ne.symm hcr.1)]
      by_cases htext : text = []
      · simp [htext, push]
      · rw [ih _ htext hlf.2 hcr.2]
        simp

theorem endLine_eq (text : List UInt8) (draft : Draft) (afterReturn : Bool) :
    (⟨text.reverse, draft, afterReturn⟩ : Decoder).endLine =
      (⟨[], (readLine draft text).1, afterReturn⟩, (readLine draft text).2) := by
  by_cases h : text = []
  · simp [endLine, readLine, h]
  · simp [endLine, readLine, h]

theorem push_ending (d : Decoder) {ending : LineEnd}
    (h : d.afterReturn = true → ending ≠ .lf) :
    d.push ending.bytes =
      ({ d.endLine.1 with afterReturn := decide (ending = .cr) }, d.endLine.2) := by
  obtain ⟨line, draft, afterReturn⟩ := d
  have hend := fun afterReturn => endLine_eq line.reverse draft afterReturn
  simp only [List.reverse_reverse] at hend
  cases ending with
  | lf =>
      obtain rfl : afterReturn = false := by simpa using h
      simp [LineEnd.bytes, push, step, hend]
  | crlf => simp [LineEnd.bytes, push, step, hend]
  | cr => simp [LineEnd.bytes, push, step, hend]

theorem push_line (draft : Draft) (afterReturn : Bool) {l : SentLine} (hl : l.IsWhole)
    (h : afterReturn = true → l.text = [] → l.ending ≠ .lf) :
    (⟨[], draft, afterReturn⟩ : Decoder).push l.bytes =
      (⟨[], (readLine draft l.text).1, decide (l.ending = .cr)⟩, (readLine draft l.text).2) := by
  obtain ⟨text, ending⟩ := l
  by_cases htext : text = []
  · subst htext
    have hend := endLine_eq [] draft afterReturn
    simp only [List.reverse_nil] at hend
    rw [SentLine.bytes, List.nil_append, push_ending _ fun hafter => h hafter rfl, hend]
  · have hend := endLine_eq text draft false
    rw [SentLine.bytes, push_append, push_text _ htext hl.1 hl.2]
    simp only [List.append_nil, List.nil_append]
    rw [push_ending _ (by simp), hend]

/-- Lines that are told apart are read one by one. -/
theorem push_lines (draft : Draft) (afterReturn : Bool) {ls : List SentLine}
    (hwhole : ∀ l ∈ ls, l.IsWhole) (hsplit : ls.IsChain SentLine.Splits)
    (hfirst : ∀ l ∈ ls.head?, afterReturn = true → l.text = [] → l.ending ≠ .lf) :
    ∃ afterReturn', (⟨[], draft, afterReturn⟩ : Decoder).push (lineBytes ls) =
      (⟨[], (readLines draft (ls.map (·.text))).1, afterReturn'⟩,
        (readLines draft (ls.map (·.text))).2) := by
  induction ls generalizing draft afterReturn with
  | nil => exact ⟨afterReturn, rfl⟩
  | cons l ls ih =>
      have hnext : ∀ next ∈ ls.head?, decide (l.ending = .cr) = true → next.text = [] →
          next.ending ≠ .lf := by
        intro next hmem hcr
        obtain ⟨rest, rfl⟩ := List.head?_eq_some_iff.mp hmem
        exact (List.isChain_cons_cons.mp hsplit).1 (by simpa using hcr)
      obtain ⟨afterReturn', hrest⟩ := ih (readLine draft l.text).1 (decide (l.ending = .cr))
        (fun next hmem => hwhole next (.tail _ hmem)) hsplit.of_cons hnext
      refine ⟨afterReturn', ?_⟩
      rw [lineBytes, List.flatMap_cons, push_append,
        push_line draft afterReturn (hwhole l (.head _)) (hfirst l rfl)]
      exact Prod.ext (congrArg (·.1) hrest)
        (congrArg ((readLine draft l.text).2 ++ ·) (congrArg (·.2) hrest))

end Decoder

theorem frames_lineBytes {ls : List SentLine} (hwhole : ∀ l ∈ ls, l.IsWhole)
    (hsplit : ls.IsChain SentLine.Splits) :
    frames (lineBytes ls) = (readLines .empty (ls.map (·.text))).2 := by
  obtain ⟨afterReturn, h⟩ := Decoder.push_lines .empty false hwhole hsplit (by simp)
  exact congrArg (·.2) h

end TaskMonitor.EventStream
