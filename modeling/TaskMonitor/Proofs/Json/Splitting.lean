import Mathlib.Data.List.Induction
import TaskMonitor.Json.Tree
import TaskMonitor.Proofs.Json.Scanning

/-! # Parts of a text

A text falls apart at every delimiter that stands outside of quotes: what is read of each part does
not depend on the other one. -/

namespace TaskMonitor.Json

/-! ## Delimiters -/

/-- The bytes that are tokens of their own. -/
inductive Delimits : UInt8 → Token → Prop where
  | openObject : Delimits 0x7B .openObject
  | closeObject : Delimits 0x7D .closeObject
  | openArray : Delimits 0x5B .openArray
  | closeArray : Delimits 0x5D .closeArray
  | comma : Delimits 0x2C .comma
  | colon : Delimits 0x3A .colon

/-- The token is the same wherever it stands. -/
def Token.isDelimiter : Token → Bool
  | .text _ | .number _ | .word _ => false
  | _ => true

namespace Scanner

variable {s s' : Scanner} {b : UInt8} {d : Token} {before after : List Token}

/-- The scanner, had it read other tokens before. -/
def onto (before : List Token) (s : Scanner) : Scanner := ⟨s.tokens ++ before, s.scan⟩

theorem idleStep_onto (before tokens : List Token) (b : UInt8) :
    idleStep (tokens ++ before) b = (idleStep tokens b).map (onto before) := by
  simp only [idleStep, apply_ite (Option.map (onto before))]
  rfl

theorem step_onto (before : List Token) (s : Scanner) (b : UInt8) :
    (s.onto before).step b = (s.step b).map (onto before) := by
  obtain ⟨tokens, scan⟩ := s
  cases scan with
  | idle => exact idleStep_onto before tokens b
  | text read =>
      simp only [onto, step]
      repeat' split
      all_goals rfl
  | escape read =>
      simp only [onto, step]
      split
      · rfl
      · cases escaped? b <;> rfl
  | unit read code missing =>
      simp only [onto, step]
      cases hexValue? b with
      | none => rfl
      | some v =>
          simp only [Option.map_some]
          split <;> rfl
  | number read =>
      simp only [onto, step]
      split
      · rfl
      · exact idleStep_onto before (.number read.reverse :: tokens) b
  | word read =>
      simp only [onto, step]
      split
      · rfl
      · exact idleStep_onto before (.word read.reverse :: tokens) b

theorem foldlM_onto (before : List Token) (bytes : List UInt8) (s : Scanner) :
    bytes.foldlM step (s.onto before) = (bytes.foldlM step s).map (onto before) := by
  induction bytes generalizing s with
  | nil => rfl
  | cons b bytes ih =>
      rw [List.foldlM_cons, List.foldlM_cons, step_onto]
      cases s.step b with
      | none => rfl
      | some s' => exact ih s'

theorem settled?_onto (before : List Token) (s : Scanner) :
    (s.onto before).settled? = s.settled?.map (· ++ before) := by
  obtain ⟨tokens, scan⟩ := s
  cases scan <;> rfl

theorem step_delimiter (hb : Delimits b d) (hs : s.settled? = some before) :
    s.step b = some ⟨d :: before, .idle⟩ := by
  obtain ⟨tokens, scan⟩ := s
  cases hb <;> cases scan <;> cases hs <;> rfl

/-! ## What a byte adds -/

theorem idleStep_cases {tokens : List Token} (h : idleStep tokens b = some s) :
    (isSpace b = true ∧ s = ⟨tokens, .idle⟩) ∨ (∃ d, Delimits b d ∧ s = ⟨d :: tokens, .idle⟩) ∨
      s.tokens = tokens ∧ s.scan ≠ .idle := by
  by_cases hspace : isSpace b = true
  · rw [idleStep, if_pos hspace] at h
    exact .inl ⟨hspace, (Option.some.inj h).symm⟩
  by_cases hb : ∃ d, Delimits b d
  · obtain ⟨d, hd⟩ := hb
    have hstep : idleStep tokens b = some ⟨d :: tokens, .idle⟩ :=
      step_delimiter (s := ⟨tokens, .idle⟩) hd rfl
    exact .inr (.inl ⟨d, hd, Option.some.inj (h.symm.trans hstep)⟩)
  have hne {c : UInt8} {d : Token} (hc : Delimits c d) : ¬ (b == c) = true := fun heq =>
    hb ⟨d, eq_of_beq heq ▸ hc⟩
  rw [idleStep, if_neg hspace, if_neg (hne .openObject), if_neg (hne .closeObject),
    if_neg (hne .openArray), if_neg (hne .closeArray), if_neg (hne .comma),
    if_neg (hne .colon)] at h
  refine .inr (.inr ?_)
  repeat' split at h
  all_goals cases h
  all_goals exact ⟨rfl, by simp⟩

theorem settled?_cases (h : s.settled? = some before) :
    before = s.tokens ∨ ∃ t, t.isDelimiter = false ∧ before = t :: s.tokens := by
  obtain ⟨tokens, scan⟩ := s
  cases scan <;> cases h
  · exact .inl rfl
  · exact .inr ⟨_, rfl, rfl⟩
  · exact .inr ⟨_, rfl, rfl⟩

/-- A byte is a delimiter and ends the token in progress, or it adds at most a token that is no
delimiter. -/
theorem step_cases (h : s.step b = some s') :
    (∃ d before, Delimits b d ∧ s.settled? = some before ∧ s' = ⟨d :: before, .idle⟩) ∨
      s'.tokens = s.tokens ∨ ∃ t, t.isDelimiter = false ∧ s'.tokens = t :: s.tokens := by
  obtain ⟨tokens, scan⟩ := s
  cases scan with
  | idle =>
      rcases idleStep_cases h with ⟨-, rfl⟩ | ⟨d, hd, rfl⟩ | ⟨hsame, -⟩
      · exact .inr (.inl rfl)
      · exact .inl ⟨d, tokens, hd, rfl, rfl⟩
      · exact .inr (.inl hsame)
  | text read =>
      simp only [step] at h
      repeat' split at h
      · cases h
        exact .inr (.inr ⟨_, rfl, rfl⟩)
      · cases h
        exact .inr (.inl rfl)
      · cases h
      · cases h
        exact .inr (.inl rfl)
  | escape read =>
      simp only [step] at h
      split at h
      · cases h
        exact .inr (.inl rfl)
      · obtain ⟨e, -, rfl⟩ := Option.map_eq_some_iff.mp h
        exact .inr (.inl rfl)
  | unit read code missing =>
      obtain ⟨v, -, rfl⟩ := Option.map_eq_some_iff.mp h
      refine .inr (.inl ?_)
      split <;> rfl
  | number read =>
      simp only [step] at h
      split at h
      · cases h
        exact .inr (.inl rfl)
      · rcases idleStep_cases h with ⟨-, rfl⟩ | ⟨d, hd, rfl⟩ | ⟨hsame, -⟩
        · exact .inr (.inr ⟨_, rfl, rfl⟩)
        · exact .inl ⟨d, _, hd, rfl, rfl⟩
        · exact .inr (.inr ⟨_, rfl, hsame⟩)
  | word read =>
      simp only [step] at h
      split at h
      · cases h
        exact .inr (.inl rfl)
      · rcases idleStep_cases h with ⟨-, rfl⟩ | ⟨d, hd, rfl⟩ | ⟨hsame, -⟩
        · exact .inr (.inr ⟨_, rfl, rfl⟩)
        · exact .inl ⟨d, _, hd, rfl, rfl⟩
        · exact .inr (.inr ⟨_, rfl, hsame⟩)

theorem exists_of_cons {tokens : List Token} {t : Token} (ht : t.isDelimiter = false)
    (hd : d.isDelimiter = true) (h : t :: tokens = after ++ d :: before) :
    ∃ a, tokens = a ++ d :: before := by
  cases after with
  | nil =>
      obtain ⟨rfl, -⟩ := List.cons.inj h
      simp [hd] at ht
  | cons x a => exact ⟨a, (List.cons.inj h).2⟩

theorem of_settled?_delimiter (hs : s.settled? = some (after ++ d :: before))
    (hd : d.isDelimiter = true) : ∃ a, s.tokens = a ++ d :: before := by
  rcases settled?_cases hs with hsame | ⟨t, ht, htoken⟩
  · exact ⟨after, hsame.symm⟩
  · exact exists_of_cons ht hd htoken.symm

/-- A delimiter that was read by now was read before, or was the last byte. -/
theorem of_step_delimiter (hstep : s.step b = some s') (hd : d.isDelimiter = true)
    (htokens : s'.tokens = after ++ d :: before) :
    (∃ a, s.tokens = a ++ d :: before) ∨
      after = [] ∧ Delimits b d ∧ s.settled? = some before ∧ s'.scan = .idle := by
  rcases step_cases hstep with ⟨d', read, hb, hread, rfl⟩ | hsame | ⟨t, ht, htoken⟩
  · cases after with
    | nil =>
        obtain ⟨rfl, rfl⟩ := List.cons.inj htokens
        exact .inr ⟨rfl, hb, hread, rfl⟩
    | cons x a =>
        obtain ⟨-, rfl⟩ := List.cons.inj htokens
        exact .inl (of_settled?_delimiter hread hd)
  · exact .inl ⟨after, hsame.symm.trans htokens⟩
  · exact .inl (exists_of_cons ht hd (htoken.symm.trans htokens))

theorem eq_onto (h : s.tokens = after ++ before) : s = onto before ⟨after, s.scan⟩ := by
  rw [onto, ← h]

/-- What was read before a delimiter and after it. -/
theorem exists_delimiter {bytes : List UInt8} (hread : bytes.foldlM step empty = some s)
    (hd : d.isDelimiter = true) (htokens : s.tokens = after ++ d :: before) :
    ∃ xs c ys s₁, bytes = xs ++ c :: ys ∧ Delimits c d ∧ xs.foldlM step empty = some s₁ ∧
      s₁.settled? = some before ∧ ys.foldlM step empty = some ⟨after, s.scan⟩ := by
  induction bytes using List.reverseRecOn generalizing s after with
  | nil =>
      obtain rfl : empty = s := by simpa using hread
      simp [empty] at htokens
  | append_singleton bytes b ih =>
      obtain ⟨s₀, hread₀, hstep⟩ : ∃ s₀, bytes.foldlM step empty = some s₀ ∧
          s₀.step b = some s := by
        simpa [List.foldlM_append, Option.bind_eq_some_iff] using hread
      rcases of_step_delimiter hstep hd htokens with ⟨a, ha⟩ | ⟨rfl, hb, hsettled, hidle⟩
      · obtain ⟨xs, c, ys, s₁, rfl, hc, hxs, hsettled, hys⟩ := ih hread₀ ha
        refine ⟨xs, c, ys ++ [b], s₁, by simp, hc, hxs, hsettled, ?_⟩
        -- The last byte does the same if the tokens before the delimiter are not there.
        rw [eq_onto ha, step_onto, Option.map_eq_some_iff] at hstep
        obtain ⟨⟨tokens, scan⟩, hlast, rfl⟩ := hstep
        obtain rfl := List.append_cancel_right htokens
        rw [List.foldlM_append, hys]
        simpa [onto] using hlast
      · exact ⟨bytes, b, [], s₀, rfl, hb, hread₀, hsettled, by rw [hidle]; rfl⟩

end Scanner

/-! ## Tokens of both parts -/

theorem tokens?_eq_some_iff {bytes : List UInt8} {tokens : List Token} :
    tokens? bytes = some tokens ↔ ∃ s, bytes.foldlM Scanner.step .empty = some s ∧
      s.settled? = some tokens.reverse := by
  have hfinish (s : Scanner) : s.finish = s.settled?.map List.reverse := by
    obtain ⟨read, scan⟩ := s
    cases scan <;> rfl
  simp only [tokens?, Option.bind_eq_some_iff, hfinish, Option.map_eq_some_iff]
  refine exists_congr fun s => and_congr_right fun _ => ⟨?_, fun h => ⟨_, h, by simp⟩⟩
  rintro ⟨read, hread, rfl⟩
  simpa using hread

/-- A delimiter splits the text. -/
theorem tokens?_split {bytes : List UInt8} (ts : List Token) (d : Token) {us : List Token}
    (hd : d.isDelimiter = true) (h : tokens? bytes = some (ts ++ d :: us)) :
    ∃ xs c ys, bytes = xs ++ c :: ys ∧ Delimits c d ∧ tokens? xs = some ts ∧
      tokens? ys = some us := by
  obtain ⟨s, hread, hsettled⟩ := tokens?_eq_some_iff.mp h
  rw [List.reverse_append, List.reverse_cons, List.append_assoc, List.singleton_append] at hsettled
  obtain ⟨after, hafter⟩ := Scanner.of_settled?_delimiter hsettled hd
  obtain ⟨xs, c, ys, s₁, rfl, hc, hxs, hsettled₁, hys⟩ := Scanner.exists_delimiter hread hd hafter
  rw [Scanner.eq_onto hafter, Scanner.settled?_onto, Option.map_eq_some_iff] at hsettled
  obtain ⟨read, hsettled₂, happend⟩ := hsettled
  obtain rfl := List.append_cancel_right happend
  exact ⟨xs, c, ys, rfl, hc, tokens?_eq_some_iff.mpr ⟨s₁, hxs, hsettled₁⟩,
    tokens?_eq_some_iff.mpr ⟨_, hys, hsettled₂⟩⟩

theorem tokens?_append {xs ys : List UInt8} {ts us : List Token} {c : UInt8} {d : Token}
    (hc : Delimits c d) (hxs : tokens? xs = some ts) (hys : tokens? ys = some us) :
    tokens? (xs ++ c :: ys) = some (ts ++ d :: us) := by
  obtain ⟨s, hread, hsettled⟩ := tokens?_eq_some_iff.mp hxs
  obtain ⟨s', hread', hsettled'⟩ := tokens?_eq_some_iff.mp hys
  refine tokens?_eq_some_iff.mpr ⟨s'.onto (d :: ts.reverse), ?_, ?_⟩
  · rw [List.foldlM_append, hread]
    simp only [Option.bind_eq_bind, Option.bind_some, List.foldlM_cons,
      Scanner.step_delimiter hc hsettled]
    have hempty : (⟨d :: ts.reverse, .idle⟩ : Scanner) = Scanner.empty.onto (d :: ts.reverse) := rfl
    rw [hempty, Scanner.foldlM_onto, hread']
    rfl
  · rw [Scanner.settled?_onto, hsettled']
    simp

/-! ## Blanks -/

theorem Scanner.of_idleStep_empty {tokens : List Token} {b : UInt8}
    (h : idleStep tokens b = some empty) : tokens = [] ∧ isSpace b = true := by
  rcases idleStep_cases h with ⟨hspace, hsame⟩ | ⟨d, -, hsame⟩ | ⟨-, hidle⟩
  · exact ⟨(congrArg Scanner.tokens hsame).symm, hspace⟩
  · cases hsame
  · exact absurd rfl hidle

theorem Scanner.of_step_empty {s : Scanner} {b : UInt8} (h : s.step b = some empty) :
    s = empty ∧ isSpace b = true := by
  obtain ⟨tokens, scan⟩ := s
  cases scan with
  | idle =>
      obtain ⟨rfl, hspace⟩ := of_idleStep_empty h
      exact ⟨rfl, hspace⟩
  | text read =>
      simp only [step] at h
      repeat' split at h
      all_goals cases h
  | escape read =>
      simp only [step] at h
      split at h
      · cases h
      · simp [empty] at h
  | unit read code missing =>
      obtain ⟨v, -, hv⟩ := Option.map_eq_some_iff.mp h
      split at hv <;> cases hv
  | number read =>
      simp only [step] at h
      split at h
      · cases h
      · cases (of_idleStep_empty h).1
  | word read =>
      simp only [step] at h
      split at h
      · cases h
      · cases (of_idleStep_empty h).1

theorem tokens?_eq_nil_iff {bytes : List UInt8} :
    tokens? bytes = some [] ↔ ∀ b ∈ bytes, isSpace b = true := by
  have hblank (s : Scanner) : s.settled? = some [] ↔ s = .empty := by
    obtain ⟨tokens, scan⟩ := s
    cases scan <;> simp [Scanner.settled?, Scanner.empty]
  rw [tokens?_eq_some_iff]
  simp only [List.reverse_nil, hblank, exists_eq_right]
  constructor
  · intro h
    induction bytes using List.reverseRecOn with
    | nil => simp
    | append_singleton bytes b ih =>
        obtain ⟨s, hread, hstep⟩ : ∃ s, bytes.foldlM Scanner.step .empty = some s ∧
            s.step b = some .empty := by
          simpa [List.foldlM_append, Option.bind_eq_some_iff] using h
        obtain ⟨rfl, hspace⟩ := Scanner.of_step_empty hstep
        simpa [or_imp, forall_and, hspace] using ih hread
  · intro h
    induction bytes with
    | nil => rfl
    | cons b bytes ih =>
        have hstep : Scanner.empty.step b = some .empty := by
          simp [Scanner.step, Scanner.empty, Scanner.idleStep, h b (.head _)]
        rw [List.foldlM_cons, hstep]
        exact ih fun c hc => h c (.tail _ hc)

end TaskMonitor.Json
