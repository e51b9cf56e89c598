import Mathlib.Tactic.IntervalCases
import TaskMonitor.Proofs.Json.Scanning

/-! # Texts between quotes -/

namespace TaskMonitor.Json

/-! ## Pieces -/

def isUnitControl (c : Char) : Bool :=
  c.toNat < 0x20 && !(['\x08', '\x0C', '\n', '\r', '\t'].contains c)

def charPieces (c : Char) : TextLiteral :=
  if isUnitControl c then [.unit c.toNat] else (String.utf8EncodeChar c).map .byte

def literal (text : String) : TextLiteral := text.toList.flatMap charPieces

theorem bytes?_map_byte (bytes : List UInt8) (rest : TextLiteral) :
    TextLiteral.bytes? (bytes.map .byte ++ rest) = (TextLiteral.bytes? rest).map (bytes ++ ·) := by
  induction bytes with
  | nil => simp
  | cons b bytes ih =>
      rw [List.map_cons, List.cons_append, TextLiteral.bytes?, ih, Option.map_map]
      rfl

theorem bytes?_charPieces (c : Char) (rest : TextLiteral) :
    TextLiteral.bytes? (charPieces c ++ rest) =
      (TextLiteral.bytes? rest).map (String.utf8EncodeChar c ++ ·) := by
  unfold charPieces
  split
  next hcontrol =>
    have hlow : c.toNat < 0x20 := by
      simp only [isUnitControl, Bool.and_eq_true, decide_eq_true_eq] at hcontrol
      exact hcontrol.1
    have hlead : ¬ (0xD800 ≤ c.toNat ∧ c.toNat < 0xDC00) := by omega
    have htrail : ¬ (0xDC00 ≤ c.toNat ∧ c.toNat < 0xE000) := by omega
    have hc : Char.ofNat c.toNat = c := Char.ofNat_toNat c
    rw [List.cons_append, List.nil_append, TextLiteral.bytes?.eq_def]
    simp only [hlead, htrail, hc, if_false]
  next => exact bytes?_map_byte _ rest

theorem bytes?_literal (text : List Char) :
    TextLiteral.bytes? (text.flatMap charPieces) = some (Utf8.encode text) := by
  induction text with
  | nil => rfl
  | cons c text ih =>
      rw [List.flatMap_cons, bytes?_charPieces, ih]
      rfl

/-- A text is read back from its pieces. -/
theorem text?_literal (text : String) : (literal text).text? = some text := by
  rw [TextLiteral.text?, literal, bytes?_literal]
  simp [Utf8.decode?_encode]

/-! ## Scanning -/

/-- Between quotes most bytes stand for themselves. -/
theorem foldlM_plain {bytes : List UInt8}
    (h : ∀ b ∈ bytes, b ≠ 0x22 ∧ b ≠ 0x5C ∧ ¬ b < 0x20) (tokens : List Token)
    (read : List TextPiece) :
    bytes.foldlM Scanner.step ⟨tokens, .text read⟩ =
      some ⟨tokens, .text ((bytes.map .byte).reverse ++ read)⟩ := by
  induction bytes generalizing read with
  | nil => rfl
  | cons b bytes ih =>
      obtain ⟨hquote, hescape, hcontrol⟩ := h b (.head _)
      have hstep : Scanner.step ⟨tokens, .text read⟩ b =
          some ⟨tokens, .text (.byte b :: read)⟩ := by
        simp [Scanner.step, hquote, hescape, hcontrol]
      rw [List.foldlM_cons, hstep]
      simpa using ih (fun b' hmem => h b' (.tail _ hmem)) (.byte b :: read)

theorem toNat_ofNat_lt {n : Nat} (h : n < 0x20) : (Char.ofNat n).toNat < 0x20 := by
  have hcode : ∀ n < 0x20, (Char.ofNat n).toNat < 0x20 := by decide
  exact hcode n h

theorem plain_of_quoteChar {c : Char} (hquote : c ≠ '"') (hescape : c ≠ '\\')
    (hcontrol : ¬ c.toNat < 0x20) :
    ∀ b ∈ Utf8.encode [c], b ≠ 0x22 ∧ b ≠ 0x5C ∧ ¬ b < 0x20 := by
  intro b hb
  -- A byte below 0x80 is the only one of its character.
  have hchar {n : Nat} (hn : n < 0x80) (hbyte : b = UInt8.ofNat n) : c = Char.ofNat n := by
    have hmem := Utf8.mem_encode hn (hbyte ▸ hb)
    simpa [eq_comm] using hmem
  refine ⟨fun h => hquote (hchar (by decide) h), fun h => hescape (hchar (by decide) h), ?_⟩
  intro hlow
  have hlt : b.toNat < 0x20 := hlow
  rw [hchar (by omega) UInt8.ofNat_toNat.symm] at hcontrol
  exact hcontrol (toNat_ofNat_lt hlt)

theorem foldlM_quoteControl (tokens : List Token) (read : List TextPiece) : ∀ n < 0x20,
    (Utf8.encode (quoteChar (Char.ofNat n))).foldlM Scanner.step ⟨tokens, .text read⟩ =
      some ⟨tokens, .text ((charPieces (Char.ofNat n)).reverse ++ read)⟩ := by
  intro n hn
  interval_cases n <;> rfl

theorem foldlM_quoteChar (c : Char) (tokens : List Token) (read : List TextPiece) :
    (Utf8.encode (quoteChar c)).foldlM Scanner.step ⟨tokens, .text read⟩ =
      some ⟨tokens, .text ((charPieces c).reverse ++ read)⟩ := by
  by_cases hcontrol : c.toNat < 0x20
  · have hc : Char.ofNat c.toNat = c := Char.ofNat_toNat c
    have hread := foldlM_quoteControl tokens read c.toNat hcontrol
    rwa [hc] at hread
  by_cases hquote : c = '"'
  · subst hquote
    rfl
  by_cases hescape : c = '\\'
  · subst hescape
    rfl
  have hpieces : charPieces c = (Utf8.encode [c]).map .byte := by
    simp [charPieces, isUnitControl, hcontrol, Utf8.encode]
  have hchars : quoteChar c = [c] := by
    have hlow : ∀ d ∈ ['\x08', '\x0C', '\n', '\r', '\t'], d.toNat < 0x20 := by simp
    have hne : ∀ d ∈ ['\x08', '\x0C', '\n', '\r', '\t'], c ≠ d := by
      rintro d hd rfl
      exact hcontrol (hlow c hd)
    simp only [List.forall_mem_cons] at hne
    obtain ⟨hb, hf, hn, hr, ht, -⟩ := hne
    simp only [quoteChar, hquote, hescape, hb, hf, hn, hr, ht, hcontrol, if_false]
  rw [hpieces, hchars]
  exact foldlM_plain (plain_of_quoteChar hquote hescape hcontrol) tokens read

theorem foldlM_quoteChars (text : List Char) (tokens : List Token) (read : List TextPiece) :
    (Utf8.encode (text.flatMap quoteChar)).foldlM Scanner.step ⟨tokens, .text read⟩ =
      some ⟨tokens, .text ((text.flatMap charPieces).reverse ++ read)⟩ := by
  induction text generalizing read with
  | nil => rfl
  | cons c text ih =>
      rw [List.flatMap_cons, Utf8.encode_append, List.foldlM_append, foldlM_quoteChar]
      simpa using ih ((charPieces c).reverse ++ read)

theorem scans_quote (text : String) : Scans (quote text) [.text (literal text)] := by
  intro before
  refine ⟨⟨.text (literal text) :: before, .idle⟩, ?_, rfl⟩
  have hquote : quote text = ['"'] ++ (text.toList.flatMap quoteChar ++ ['"']) := rfl
  rw [hquote, Utf8.encode_append, Utf8.encode_append, List.foldlM_append]
  have hopen : (Utf8.encode ['"']).foldlM Scanner.step ⟨before, .idle⟩ =
      some ⟨before, .text []⟩ := rfl
  rw [hopen]
  simp only [Option.bind_eq_bind, Option.bind_some]
  rw [List.foldlM_append, foldlM_quoteChars]
  simp only [Option.bind_eq_bind, Option.bind_some, List.append_nil]
  have hclose (read : List TextPiece) :
      (Utf8.encode ['"']).foldlM Scanner.step ⟨before, .text read⟩ =
        some ⟨.text read.reverse :: before, .idle⟩ := rfl
  rw [hclose, List.reverse_reverse, literal]

end TaskMonitor.Json
