import TaskMonitor.Json.Text
import TaskMonitor.Proofs.Text.Utf8

/-! # Scanning what was written

A token may be in progress when the text ends. It counts as read then, and a delimiter ends it. -/

namespace TaskMonitor.Json

/-! ## Texts that hold tokens -/

/-- The tokens read so far, latest first, if the text may end here. -/
def Scanner.settled? (s : Scanner) : Option (List Token) :=
  match s.scan with
  | .idle => some s.tokens
  | .number read => some (.number read.reverse :: s.tokens)
  | .word read => some (.word read.reverse :: s.tokens)
  | _ => none

/-- A text holds tokens, whatever tokens were read before it. -/
def Scans (text : List Char) (tokens : List Token) : Prop :=
  ∀ before, ∃ s : Scanner, (Utf8.encode text).foldlM Scanner.step ⟨before, .idle⟩ = some s ∧
    s.settled? = some (tokens.reverse ++ before)

theorem tokens?_of_scans {text : List Char} {tokens : List Token} (h : Scans text tokens) :
    tokens? (Utf8.encode text) = some tokens := by
  obtain ⟨⟨read, scan⟩, hread, hsettled⟩ := h []
  have hfinish : Scanner.finish ⟨read, scan⟩ = some tokens := by
    cases scan <;> simp_all [Scanner.settled?, Scanner.finish]
  rw [tokens?, Scanner.empty, hread]
  exact hfinish

theorem scans_nil : Scans [] [] := fun before => ⟨⟨before, .idle⟩, rfl, rfl⟩

/-! ## Delimiters -/

def delimiter? : Char → Option Token
  | '\x7b' => some .openObject
  | '\x7d' => some .closeObject
  | '[' => some .openArray
  | ']' => some .closeArray
  | ',' => some .comma
  | ':' => some .colon
  | _ => none

theorem foldlM_delimiter {c : Char} {token : Token} (h : delimiter? c = some token) {s : Scanner}
    {read : List Token} (hs : s.settled? = some read) :
    (Utf8.encode [c]).foldlM Scanner.step s = some ⟨token :: read, .idle⟩ := by
  obtain ⟨tokens, scan⟩ := s
  unfold delimiter? at h
  split at h <;> cases h <;> cases scan <;> cases hs <;> rfl

theorem Scans.append_delimiter {xs ys : List Char} {ts us : List Token} (h : Scans xs ts) {c : Char}
    {token : Token} (hc : delimiter? c = some token) (hrest : Scans ys us) :
    Scans (xs ++ c :: ys) (ts ++ token :: us) := by
  intro before
  obtain ⟨s, hread, hsettled⟩ := h before
  obtain ⟨s', hread', hsettled'⟩ := hrest (token :: (ts.reverse ++ before))
  refine ⟨s', ?_, by simpa using hsettled'⟩
  rw [show xs ++ c :: ys = xs ++ ([c] ++ ys) from rfl, Utf8.encode_append, Utf8.encode_append,
    List.foldlM_append, hread]
  simp only [Option.bind_eq_bind, Option.bind_some]
  rw [List.foldlM_append, foldlM_delimiter hc hsettled]
  exact hread'

theorem Scans.delimiter_cons {ys : List Char} {us : List Token} {c : Char} {token : Token}
    (hc : delimiter? c = some token) (h : Scans ys us) : Scans (c :: ys) (token :: us) :=
  scans_nil.append_delimiter hc h

end TaskMonitor.Json
