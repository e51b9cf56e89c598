import Mathlib.Data.List.TakeWhile
import TaskMonitor.Proofs.EventStream.Blocks

/-! # The grammar of an event stream

All bytes of a stream fall into lines, and the lines into blocks. Each block that says anything is
one frame, which is complete with the first byte that ends the empty line after the block. -/

namespace TaskMonitor.EventStream

/-! ## Lines and blocks of all bytes -/

structure EndedLine where
  text : List UInt8
  /-- Where the first byte stands that ends it. -/
  stop : Nat
  deriving DecidableEq, Repr

def EndedLine.prepend (text : List UInt8) (l : EndedLine) : EndedLine :=
  { l with text := text ++ l.text }

theorem EndedLine.prepend_comp (xs ys : List UInt8) :
    EndedLine.prepend xs ∘ EndedLine.prepend ys = EndedLine.prepend (xs ++ ys) := by
  funext l
  simp [prepend]

/-- The lines of bytes that begin at a position. A line ends at a line feed, at a carriage return,
or at both in this order. What stands after the last end is no line. -/
def linesFrom (n : Nat) : List UInt8 → List EndedLine
  | [] => []
  | 0x0D :: 0x0A :: rest => ⟨[], n⟩ :: linesFrom (n + 2) rest
  | b :: rest =>
    if b = 0x0A ∨ b = 0x0D then ⟨[], n⟩ :: linesFrom (n + 1) rest
    else (linesFrom (n + 1) rest).modifyHead (.prepend [b])

structure Block where
  lines : List (List UInt8)
  /-- Where the first byte stands that ends the empty line. -/
  stop : Nat
  deriving DecidableEq, Repr

namespace Block

def prepend (lines : List (List UInt8)) (b : Block) : Block := { b with lines := lines ++ b.lines }

def texts (b : Block) : List (List Char) := b.lines.map fun line => (Utf8.decodeLossy line).toList

/-- What a block says. Lines that begin with a colon are comments. -/
def frame (b : Block) : Frame := blockFrame (b.texts.filter (·.head? ≠ some ':'))

/-- The frame of a block with the position where it is complete, unless it is the empty one. -/
def located? (b : Block) : Option (Nat × Frame) :=
  if b.frame = .empty then none else some (b.stop, b.frame)

end Block

/-- Lines after the last empty one are no block. -/
def blocksOf : List EndedLine → List Block
  | [] => []
  | l :: rest =>
    if l.text = [] then ⟨[], l.stop⟩ :: blocksOf rest
    else (blocksOf rest).modifyHead (.prepend [l.text])

def locatedFrames (bytes : List UInt8) : List (Nat × Frame) :=
  (blocksOf (linesFrom 0 bytes)).filterMap Block.located?

def framesWithin (n m : Nat) (located : List (Nat × Frame)) : List Frame :=
  (located.filter fun p => n ≤ p.1 ∧ p.1 < m).map (·.2)

/-- What each chunk brings: the frames that one of its bytes completes. -/
def deliveries (located : List (Nat × Frame)) (n : Nat) : List (List UInt8) → List (List Frame)
  | [] => []
  | chunk :: rest =>
    framesWithin n (n + chunk.length) located :: deliveries located (n + chunk.length) rest

/-! ## What a line says -/

theorem splitField_bare {line : List Char} (h : ':' ∉ line) : splitField line = (line, []) := by
  have hname : line.takeWhile (· ≠ ':') = line := by
    rw [List.takeWhile_eq_self_iff]
    intro c hc
    simpa using fun heq : c = ':' => h (heq ▸ hc)
  simp only [splitField, hname, List.drop_length]

theorem splitField_colon {name : List Char} (h : ':' ∉ name) (rest : List Char) :
    splitField (name ++ ':' :: rest) =
      (name, if rest.head? = some ' ' then rest.tail else rest) := by
  have hname : (name ++ ':' :: rest).takeWhile (· ≠ ':') = name := by
    have hpos : ∀ c ∈ name, decide (c ≠ ':') = true := by
      intro c hc
      simpa using fun heq : c = ':' => h (heq ▸ hc)
    rw [List.takeWhile_append_of_pos hpos]
    simp
  simp only [splitField, hname, List.drop_left]

/-- A line gives a field a value: it is the name, a colon and the value with at most one blank
before it, or the name alone, which gives the empty value. -/
inductive Says (field : String) : List Char → List Char → Prop where
  | bare : Says field field.toList []
  | blank (value : List Char) : Says field (field.toList ++ ':' :: ' ' :: value) value
  | plain {value : List Char} (h : value.head? ≠ some ' ') :
      Says field (field.toList ++ ':' :: value) value

theorem value?_eq_some_iff {field : String} (h : ':' ∉ field.toList) {line value : List Char} :
    value? field line = some value ↔ Says field line value := by
  constructor
  · intro hvalue
    by_cases hcolon : ':' ∈ line
    · obtain ⟨name, rest, rfl, hname⟩ := List.eq_append_cons_of_mem hcolon
      simp only [value?, splitField_colon hname] at hvalue
      split at hvalue
      next heq =>
        subst heq
        rw [Option.some.injEq] at hvalue
        split at hvalue
        next hblank =>
          obtain ⟨value', rfl⟩ := List.head?_eq_some_iff.mp hblank
          obtain rfl : value' = value := hvalue
          exact .blank value'
        next hblank =>
          subst hvalue
          exact .plain hblank
      next => simp at hvalue
    · simp only [value?, splitField_bare hcolon] at hvalue
      split at hvalue
      next heq =>
        obtain rfl : [] = value := by simpa using hvalue
        rw [heq]
        exact .bare
      next => simp at hvalue
  · intro hsays
    cases hsays with
    | bare => simp [value?, splitField_bare h]
    | blank value => simp [value?, splitField_colon h]
    | plain hblank => simp [value?, splitField_colon h, hblank]

theorem values_filter_comments {field : String} (hfield : field.toList ≠ [])
    (lines : List (List Char)) :
    values field (lines.filter (·.head? ≠ some ':')) = values field lines := by
  rw [values, List.filterMap_filter, values]
  refine congrArg (lines.filterMap ·) (funext fun line => ?_)
  by_cases hcomment : line.head? = some ':'
  · simp [hcomment, value?_comment hfield hcomment]
  · simp [hcomment]

theorem Block.frame_eq (b : Block) : b.frame = blockFrame b.texts := by
  have hvalues (field : String) (hfield : field.toList ≠ []) :=
    values_filter_comments hfield b.texts
  simp only [Block.frame, blockFrame, hvalues "event" (by decide), hvalues "data" (by decide),
    hvalues "id" (by decide), hvalues "retry" (by decide)]

/-! ## Where frames are completed -/

theorem framesWithin_append (n m : Nat) (xs ys : List (Nat × Frame)) :
    framesWithin n m (xs ++ ys) = framesWithin n m xs ++ framesWithin n m ys := by
  simp [framesWithin]

theorem framesWithin_eq_nil {n m : Nat} {located : List (Nat × Frame)}
    (h : ∀ p ∈ located, p.1 < n ∨ m ≤ p.1) : framesWithin n m located = [] := by
  have hnone : (located.filter fun p => n ≤ p.1 ∧ p.1 < m) = [] := by
    rw [List.filter_eq_nil_iff]
    intro p hp
    have hout := h p hp
    simp only [decide_eq_true_eq]
    omega
  rw [framesWithin, hnone, List.map_nil]

theorem framesWithin_of_mem {n m : Nat} {located : List (Nat × Frame)}
    (h : ∀ p ∈ located, n ≤ p.1 ∧ p.1 < m) : framesWithin n m located = located.map (·.2) := by
  rw [framesWithin, List.filter_eq_self.mpr fun p hp => by simpa using h p hp]

namespace Decoder

/-- The frames that bytes complete which begin at a position, each with the position of the byte
that completes it. -/
def completions (d : Decoder) (n : Nat) : List UInt8 → List (Nat × Frame)
  | [] => []
  | b :: rest => (d.step b).2.map (n, ·) ++ (d.step b).1.completions (n + 1) rest

theorem push_snd (d : Decoder) (n : Nat) (bytes : List UInt8) :
    (d.push bytes).2 = (d.completions n bytes).map (·.2) := by
  induction bytes generalizing d n with
  | nil => rfl
  | cons b bytes ih => simp [push_cons, completions, ih _ (n + 1), Function.comp_def]

theorem pushAll_flatten (d : Decoder) (chunks : List (List UInt8)) :
    (d.pushAll chunks).2.flatten = (d.push chunks.flatten).2 := by
  induction chunks generalizing d with
  | nil => rfl
  | cons chunk rest ih =>
      rw [List.flatten_cons, push_append, ← ih]
      rfl

theorem completions_append (d : Decoder) (n : Nat) (xs ys : List UInt8) :
    d.completions n (xs ++ ys) =
      d.completions n xs ++ (d.push xs).1.completions (n + xs.length) ys := by
  induction xs generalizing d n with
  | nil => rfl
  | cons b xs ih =>
      simp [push_cons, completions, ih, Nat.add_assoc, Nat.add_comm 1]

theorem mem_completions {d : Decoder} {n : Nat} {bytes : List UInt8} {p : Nat × Frame}
    (h : p ∈ d.completions n bytes) : n ≤ p.1 ∧ p.1 < n + bytes.length := by
  induction bytes generalizing d n with
  | nil => simp [completions] at h
  | cons b bytes ih =>
      rw [completions, List.mem_append] at h
      rcases h with h | h
      · obtain ⟨f, -, rfl⟩ := List.mem_map.mp h
        simp
      · have hrest := ih h
        simp only [List.length_cons]
        omega

/-- Chunk by chunk, a decoder gives the frames that the bytes of the chunk complete. What was
completed before belongs to no chunk to come. -/
theorem pushAll_snd (d : Decoder) (n : Nat) (chunks : List (List UInt8))
    {before : List (Nat × Frame)} (hbefore : ∀ p ∈ before, p.1 < n) :
    (d.pushAll chunks).2 = deliveries (before ++ d.completions n chunks.flatten) n chunks := by
  induction chunks generalizing d n before with
  | nil => rfl
  | cons chunk rest ih =>
      have hread : ∀ p ∈ before ++ d.completions n chunk, p.1 < n + chunk.length := by
        intro p hp
        rcases List.mem_append.mp hp with hp | hp
        · exact Nat.lt_of_lt_of_le (hbefore p hp) (Nat.le_add_right _ _)
        · exact (mem_completions hp).2
      have hlater : framesWithin n (n + chunk.length)
          ((d.push chunk).1.completions (n + chunk.length) rest.flatten) = [] :=
        framesWithin_eq_nil fun p hp => .inr (mem_completions hp).1
      rw [List.flatten_cons, completions_append, ← List.append_assoc, deliveries,
        ← ih (d.push chunk).1 (n + chunk.length) hread, framesWithin_append, framesWithin_append,
        framesWithin_eq_nil fun p hp => .inl (hbefore p hp),
        framesWithin_of_mem fun p hp => mem_completions hp, hlater, List.append_nil,
        List.nil_append, ← push_snd]
      rfl

end Decoder

/-! ## Lines -/

/-- What lines complete, in a frame some of whose fields have been read. -/
def readEnded (draft : Draft) : List EndedLine → List (Nat × Frame)
  | [] => []
  | l :: rest =>
    (readLine draft l.text).2.map (l.stop, ·) ++ readEnded (readLine draft l.text).1 rest

theorem readEnded_prepend_nil (draft : Draft) (ls : List EndedLine) :
    readEnded draft (ls.modifyHead (.prepend [])) = readEnded draft ls := by
  cases ls <;> rfl

namespace Decoder

theorem step_break (text : List UInt8) (draft : Draft) {b : UInt8} (h : b = 0x0A ∨ b = 0x0D) :
    (⟨text.reverse, draft, false⟩ : Decoder).step b =
      (⟨[], (readLine draft text).1, decide (b = 0x0D)⟩, (readLine draft text).2) := by
  rcases h with rfl | rfl
  · simp [step, endLine_eq]
  · simp [step, endLine_eq]

/-- After a carriage return only a line feed is read in another way. -/
theorem completions_afterReturn (draft : Draft) (n : Nat) {bytes : List UInt8}
    (h : bytes.head? ≠ some 0x0A) :
    (⟨[], draft, true⟩ : Decoder).completions n bytes =
      (⟨[], draft, false⟩ : Decoder).completions n bytes := by
  cases bytes with
  | nil => rfl
  | cons b rest =>
      have hb : b ≠ 0x0A := by simpa using h
      simp [completions, step, hb]

/-- A decoder that has read the beginning of a line gives what the lines complete. The induction is
on the bytes, line end by line end. -/
theorem completions_eq (text : List UInt8) (draft : Draft) (n : Nat) (bytes : List UInt8) :
    (⟨text.reverse, draft, false⟩ : Decoder).completions n bytes =
      readEnded draft ((linesFrom n bytes).modifyHead (.prepend text)) := by
  fun_induction linesFrom n bytes generalizing text draft with
  | case1 => rfl
  | case2 n rest ih =>
      -- The line feed after the carriage return ends no further line.
      have hfeed : (⟨[], (readLine draft text).1, true⟩ : Decoder).step 0x0A =
          (⟨[], (readLine draft text).1, false⟩, []) := rfl
      have hrest := ih [] (readLine draft text).1
      rw [readEnded_prepend_nil] at hrest
      simp only [completions, step_break text draft (.inr rfl), decide_true, hfeed]
      simpa [readEnded, EndedLine.prepend] using hrest
  | case3 n b rest hnot hb ih =>
      have hstate : (⟨[], (readLine draft text).1, decide (b = 0x0D)⟩ : Decoder).completions (n + 1)
          rest = (⟨[], (readLine draft text).1, false⟩ : Decoder).completions (n + 1) rest := by
        by_cases hreturn : b = 0x0D
        · rw [decide_eq_true hreturn]
          apply completions_afterReturn
          intro hfeed
          obtain ⟨more, rfl⟩ := List.head?_eq_some_iff.mp hfeed
          exact hnot more hreturn rfl
        · rw [decide_eq_false hreturn]
      have hrest := ih [] (readLine draft text).1
      rw [readEnded_prepend_nil] at hrest
      simp only [completions, step_break text draft hb, hstate]
      simpa [readEnded, EndedLine.prepend] using hrest
  | case4 n b rest hnot hb ih =>
      have hstep := step_text ⟨text.reverse, draft, false⟩ (fun h => hb (.inl h))
        (fun h => hb (.inr h))
      have hrest := ih (text ++ [b]) draft
      rw [List.reverse_append] at hrest
      rw [completions, hstep, List.modifyHead_modifyHead, EndedLine.prepend_comp]
      exact hrest

end Decoder

/-! ## Blocks -/

theorem Block.prepend_comp (xs ys : List (List UInt8)) :
    Block.prepend xs ∘ Block.prepend ys = Block.prepend (xs ++ ys) := by
  funext b
  simp [prepend]

theorem Block.modifyHead_prepend_nil (bs : List Block) : bs.modifyHead (.prepend []) = bs := by
  cases bs <;> rfl

def draftOf (lines : List (List UInt8)) : Draft :=
  (Block.texts ⟨lines, 0⟩).foldl Draft.addLine .empty

theorem draftOf_concat (lines : List (List UInt8)) (line : List UInt8) :
    draftOf (lines ++ [line]) = (draftOf lines).addLine (Utf8.decodeLossy line).toList := by
  simp [draftOf, Block.texts]

theorem located?_eq (lines : List (List UInt8)) (stop : Nat) :
    Block.located? ⟨lines, stop⟩ = (draftOf lines).frame?.map (stop, ·) := by
  rw [draftOf, frame?_foldl_addLine, Block.located?, Block.frame_eq]
  have htexts : Block.texts ⟨lines, stop⟩ = Block.texts ⟨lines, 0⟩ := rfl
  rw [htexts]
  split <;> rfl

theorem readEnded_draftOf (lines : List (List UInt8)) (ls : List EndedLine) :
    readEnded (draftOf lines) ls =
      ((blocksOf ls).modifyHead (.prepend lines)).filterMap Block.located? := by
  induction ls generalizing lines with
  | nil => rfl
  | cons l ls ih =>
      by_cases htext : l.text = []
      · have hrest := ih []
        rw [Block.modifyHead_prepend_nil] at hrest
        have hblock : Block.prepend lines ⟨[], l.stop⟩ = ⟨lines, l.stop⟩ := by
          simp [Block.prepend]
        simp only [readEnded, readLine, blocksOf, htext, if_true, List.modifyHead_cons, hblock,
          List.filterMap_cons, located?_eq]
        have hempty : Draft.empty = draftOf [] := rfl
        rw [hempty, hrest]
        cases (draftOf lines).frame? <;> rfl
      · have hrest := ih (lines ++ [l.text])
        rw [draftOf_concat] at hrest
        simp only [readEnded, readLine, blocksOf, htext, if_false, List.modifyHead_modifyHead,
          Block.prepend_comp]
        exact hrest

theorem completions_empty (bytes : List UInt8) :
    Decoder.empty.completions 0 bytes = locatedFrames bytes := by
  have hlines := Decoder.completions_eq [] .empty 0 bytes
  rw [readEnded_prepend_nil] at hlines
  have hblocks := readEnded_draftOf [] (linesFrom 0 bytes)
  rw [Block.modifyHead_prepend_nil] at hblocks
  exact hlines.trans hblocks

/-- However the bytes of a stream are cut into chunks, its frames are those of its blocks, made of
what the lines of a block say, and each comes with the chunk that holds the byte which completes
it. -/
theorem pushAll_eq_deliveries (chunks : List (List UInt8)) :
    (Decoder.empty.pushAll chunks).2.flatten = (locatedFrames chunks.flatten).map (·.2) ∧
      (Decoder.empty.pushAll chunks).2 = deliveries (locatedFrames chunks.flatten) 0 chunks ∧
      ∀ field ∈ ["event", "data", "id", "retry"], ∀ line value,
        value? field line = some value ↔ Says field line value := by
  refine ⟨?_, ?_, ?_⟩
  · rw [Decoder.pushAll_flatten, Decoder.push_snd _ 0, completions_empty]
  · rw [Decoder.pushAll_snd _ 0 chunks (List.forall_mem_nil _), completions_empty]
    rfl
  · intro field hfield line value
    have hname : ∀ name ∈ ["event", "data", "id", "retry"], ':' ∉ name.toList := by decide
    exact value?_eq_some_iff (hname field hfield)

end TaskMonitor.EventStream
