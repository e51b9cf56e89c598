import TaskMonitor.Proofs.EventStream.Grammar
import TaskMonitor.Proofs.EventStream.Rendering
import TaskMonitor.Proofs.Number.Unsigned

/-! # Lines of decoded text

A line break is one byte, and no other byte decodes to one. So a stream may be parted into lines
after it is decoded as well as before. -/

namespace TaskMonitor.EventStream

open Utf8 (Unfinished replacement decodeFrom decodeFrom_cons)

/-- The lines of a text. They end as those of bytes do, and what stands after the last end is no
line. -/
def textLines : List Char → List (List Char)
  | [] => []
  | '\r' :: '\n' :: rest => [] :: textLines rest
  | c :: rest =>
    if isBreak c then [] :: textLines rest else (textLines rest).modifyHead (c :: ·)

/-! ## Characters -/

theorem isBreak_ofNat {n : Nat} (hlf : n ≠ 0x0A) (hcr : n ≠ 0x0D) :
    isBreak (Char.ofNat n) = false := by
  have hcode : (Char.ofNat n).toNat = n ∨ (Char.ofNat n).toNat = 0 := by
    by_cases hvalid : n.isValidChar
    · exact .inl (congrArg Char.toNat (dif_pos hvalid))
    · exact .inr (congrArg Char.toNat (dif_neg hvalid))
  have hne : ∀ c ∈ ['\n', '\r'], Char.ofNat n ≠ c := by
    intro c hc heq
    rw [heq] at hcode
    simp only [List.mem_cons, List.not_mem_nil, or_false] at hc
    rcases hc with rfl | rfl
    · exact hlf (by simpa [eq_comm] using hcode)
    · exact hcr (by simpa [eq_comm] using hcode)
  simp [isBreak, hne]

/-! ## One byte -/

/-- The code of the character is beyond those of one byte, whatever its missing bytes are. -/
def IsLong (u : Unfinished) : Prop :=
  0x80 ≤ u.low ∧ 0x80 ≤ (u.value * 64 + (u.low - 0x80)) * twoTo (6 * (u.missing - 1))

/-- What may have been read of a character before the next byte. -/
def IsMidway (pending : Option Unfinished) : Prop := ∀ u ∈ pending, IsLong u

theorem isMidway_none : IsMidway none := by simp [IsMidway]

theorem isLong_start : ∀ n < 256, ∀ u ∈ (Utf8.start (UInt8.ofNat n)).2, IsLong u := by
  unfold IsLong
  decide +kernel

theorem of_forall_lt {p : UInt8 → Prop} (h : ∀ n < 256, p (UInt8.ofNat n)) (b : UInt8) : p b := by
  have hb := h b.toNat b.toNat_lt
  rwa [UInt8.ofNat_toNat] at hb

/-- A byte within the bounds goes on with the character, and no line break comes of it. -/
theorem IsLong.next {u : Unfinished} (h : IsLong u) {n : Nat} (hn : u.low ≤ n) :
    let value := u.value * 64 + (n - 0x80)
    if u.missing ≤ 1 then isBreak (Char.ofNat value) = false
    else IsLong ⟨value, u.missing - 1, 0x80, 0xBF⟩ := by
  intro value
  obtain ⟨hlow, hcode⟩ := h
  have hvalue : u.value * 64 + (u.low - 0x80) ≤ value := by omega
  have hnext : 0x80 ≤ value * twoTo (6 * (u.missing - 1)) :=
    Nat.le_trans hcode (Nat.mul_le_mul_right _ hvalue)
  split
  next hlast =>
    have hnone : u.missing - 1 = 0 := by omega
    have hone : twoTo (6 * 0) = 1 := rfl
    rw [hnone, hone] at hnext
    exact isBreak_ofNat (by omega) (by omega)
  next hmore =>
    refine ⟨Nat.le_refl _, ?_⟩
    have hone : u.missing - 1 = u.missing - 1 - 1 + 1 := by omega
    have hsix (k : Nat) : twoTo (6 * (k + 1)) = 64 * twoTo (6 * k) := by
      rw [Nat.mul_succ, twoTo_add, Nat.mul_comm]
      rfl
    rw [hone, hsix, ← Nat.mul_assoc] at hnext
    simpa using hnext

/-- A byte is the code of a character, begins a longer one, or is replaced. -/
theorem start_chars (b : UInt8) :
    (Utf8.start b).1 = [Char.ofNat b.toNat] ∨ (Utf8.start b).1 = [] ∨
      (Utf8.start b).1 = [replacement] := by
  unfold Utf8.start
  grind

theorem start_text {b : UInt8} (hlf : b ≠ 0x0A) (hcr : b ≠ 0x0D) :
    ∀ c ∈ (Utf8.start b).1, isBreak c = false := by
  intro c hc
  rcases start_chars b with hcode | hnone | hreplaced
  · rw [hcode, List.mem_singleton] at hc
    rw [hc]
    exact isBreak_ofNat (fun h => hlf (UInt8.toNat_inj.mp h)) fun h => hcr (UInt8.toNat_inj.mp h)
  · rw [hnone] at hc
    cases hc
  · rw [hreplaced, List.mem_singleton] at hc
    rw [hc]
    rfl

theorem step_text {pending : Option Unfinished} (h : IsMidway pending) {b : UInt8}
    (hlf : b ≠ 0x0A) (hcr : b ≠ 0x0D) :
    (∀ c ∈ (Utf8.step pending b).1, isBreak c = false) ∧ IsMidway (Utf8.step pending b).2 := by
  have hlong : IsMidway (Utf8.start b).2 :=
    of_forall_lt (p := fun b => IsMidway (Utf8.start b).2) isLong_start b
  have hchars := start_text hlf hcr
  cases pending with
  | none => exact ⟨hchars, hlong⟩
  | some u =>
      simp only [Utf8.step]
      split
      next hbounds =>
        have hnext := (h u rfl).next hbounds.1
        simp only at hnext
        split
        next hlast => simpa [isMidway_none, hlast] using hnext
        next hmore => simpa [IsMidway, hmore] using hnext
      next => exact ⟨by simpa [isBreak, replacement] using hchars, hlong⟩

theorem step_nil {pending : Option Unfinished} {b : UInt8} (h : (Utf8.step pending b).1 = []) :
    (Utf8.step pending b).2 ≠ none := by
  have hstart : (Utf8.start b).1 = [] → (Utf8.start b).2 ≠ none :=
    of_forall_lt (p := fun b => (Utf8.start b).1 = [] → (Utf8.start b).2 ≠ none)
      (by decide +kernel) b
  cases pending with
  | none => exact hstart h
  | some u =>
      revert h
      simp only [Utf8.step]
      split
      · split <;> simp
      · simp

theorem decodeFrom_eq_nil {pending : Option Unfinished} {bytes : List UInt8} :
    decodeFrom pending bytes = [] ↔ pending = none ∧ bytes = [] := by
  induction bytes generalizing pending with
  | nil => cases pending <;> simp [decodeFrom]
  | cons b bytes ih =>
      have hstep := @step_nil pending b
      simp only [decodeFrom_cons, List.append_eq_nil_iff, ih]
      grind

/-- A line break ends what was read of a character, and stands for itself. -/
theorem step_break {pending : Option Unfinished} (h : IsMidway pending) {b : UInt8}
    (hb : b = 0x0A ∨ b = 0x0D) :
    Utf8.step pending b = (decodeFrom pending [] ++ [Char.ofNat b.toNat], none) := by
  have hstart : Utf8.start b = ([Char.ofNat b.toNat], none) := by
    rcases hb with rfl | rfl <;> rfl
  cases pending with
  | none => exact hstart
  | some u =>
      have hlow : ¬ (u.low ≤ b.toNat ∧ b.toNat ≤ u.high) := by
        have hu := (h u rfl).1
        rcases hb with rfl | rfl <;> simp <;> omega
      simp [Utf8.step, hlow, hstart, decodeFrom]

theorem head?_decodeFrom {pending : Option Unfinished} (h : IsMidway pending) {bytes : List UInt8}
    (hlf : (decodeFrom pending bytes).head? = some '\n') :
    pending = none ∧ bytes.head? = some 0x0A := by
  induction bytes generalizing pending with
  | nil =>
      cases pending with
      | none => simp [decodeFrom] at hlf
      | some u => simp [decodeFrom, replacement] at hlf
  | cons b bytes ih =>
      rw [decodeFrom_cons] at hlf
      by_cases hb : b = 0x0A ∨ b = 0x0D
      · rw [step_break h hb] at hlf
        cases pending with
        | some u => simp [decodeFrom, replacement] at hlf
        | none =>
            rcases hb with rfl | rfl
            · exact ⟨rfl, rfl⟩
            · simp [decodeFrom] at hlf
      · rw [not_or] at hb
        obtain ⟨hchars, hnext⟩ := step_text h hb.1 hb.2
        cases hstep : (Utf8.step pending b).1 with
        | nil =>
            rw [hstep] at hlf
            exact absurd (ih hnext hlf).1 (step_nil hstep)
        | cons c chars =>
            rw [hstep] at hlf hchars
            obtain rfl : c = '\n' := by simpa using hlf
            exact absurd (hchars _ (.head _)) (by decide)

/-! ## Lines -/

theorem textLines_append {xs : List Char} (h : ∀ c ∈ xs, isBreak c = false) (ys : List Char) :
    textLines (xs ++ ys) = (textLines ys).modifyHead (xs ++ ·) := by
  induction xs with
  | nil => exact (congrFun List.modifyHead_id _).symm
  | cons c xs ih =>
      have hc := h c (.head _)
      have hcr : c ≠ '\r' := by
        rintro rfl
        simp [isBreak] at hc
      rw [List.cons_append, textLines]
      · simp only [hc, Bool.false_eq_true, if_false, ih fun c hc => h c (.tail _ hc),
          List.modifyHead_modifyHead]
        rfl
      · rintro - rfl
        exact absurd rfl hcr

/-- The texts of lines, the first of which begins in the middle of a character. -/
def decodedLines (pending : Option Unfinished) : List EndedLine → List (List Char)
  | [] => []
  | l :: rest => decodeFrom pending l.text :: rest.map (decodeFrom none ·.text)

theorem decodedLines_none (ls : List EndedLine) :
    decodedLines none ls = ls.map (decodeFrom none ·.text) := by
  cases ls <;> rfl

theorem decodedLines_prepend (pending : Option Unfinished) (b : UInt8) (ls : List EndedLine) :
    decodedLines pending (ls.modifyHead (.prepend [b])) =
      (decodedLines (Utf8.step pending b).2 ls).modifyHead ((Utf8.step pending b).1 ++ ·) := by
  cases ls <;> rfl

theorem textLines_decodeFrom_nil (pending : Option Unfinished) {text : List Char}
    {lines : List (List Char)} (h : textLines text = [] :: lines) :
    textLines (decodeFrom pending [] ++ text) = decodeFrom pending [] :: lines := by
  have hnone : ∀ c ∈ decodeFrom pending [], isBreak c = false := by
    cases pending <;> simp [decodeFrom, replacement, isBreak]
  rw [textLines_append hnone, h, List.modifyHead_cons, List.append_nil]

theorem textLines_decodeFrom_lines {pending : Option Unfinished} (h : IsMidway pending) (n : Nat)
    (bytes : List UInt8) :
    textLines (decodeFrom pending bytes) = decodedLines pending (linesFrom n bytes) := by
  fun_induction linesFrom n bytes generalizing pending with
  | case1 n =>
      cases pending with
      | none => rfl
      | some u => rfl
  | case2 n rest ih =>
      have htext : decodeFrom pending (0x0D :: 0x0A :: rest) =
          decodeFrom pending [] ++ '\r' :: '\n' :: decodeFrom none rest := by
        rw [decodeFrom_cons, step_break h (.inr rfl), List.append_assoc]
        rfl
      rw [htext]
      refine textLines_decodeFrom_nil pending ?_
      rw [textLines, ih isMidway_none, decodedLines_none]
  | case3 n b rest hnot hb ih =>
      have htext : decodeFrom pending (b :: rest) =
          decodeFrom pending [] ++ Char.ofNat b.toNat :: decodeFrom none rest := by
        rw [decodeFrom_cons, step_break h hb, List.append_assoc]
        rfl
      rw [htext]
      refine textLines_decodeFrom_nil pending ?_
      have hbreak : isBreak (Char.ofNat b.toNat) = true := by
        rcases hb with rfl | rfl <;> rfl
      rw [textLines, if_pos hbreak, ih isMidway_none, decodedLines_none]
      -- A carriage return with a line feed after it would be one end.
      intro more hcr hmore
      have hhead : (decodeFrom none rest).head? = some '\n' := by simp [hmore]
      obtain ⟨rest', rfl⟩ := List.head?_eq_some_iff.mp (head?_decodeFrom isMidway_none hhead).2
      rcases hb with rfl | rfl
      · exact absurd hcr (by decide)
      · exact hnot rest' rfl rfl
  | case4 n b rest hnot hb ih =>
      rw [not_or] at hb
      obtain ⟨hchars, hnext⟩ := step_text h hb.1 hb.2
      rw [decodeFrom_cons, textLines_append hchars, ih hnext, decodedLines_prepend]

/-- The lines of the text of a stream are the texts of its lines. -/
theorem textLines_decodeFrom (n : Nat) (bytes : List UInt8) :
    textLines (decodeFrom none bytes) = (linesFrom n bytes).map (decodeFrom none ·.text) := by
  rw [textLines_decodeFrom_lines isMidway_none n, decodedLines_none]

end TaskMonitor.EventStream
