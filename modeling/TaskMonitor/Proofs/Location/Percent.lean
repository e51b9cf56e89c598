import TaskMonitor.Location.Percent

/-! # What an escaped text stands for

Escaping characters does not change the bytes that a text stands for, so texts that stand for other
bytes are told apart after it. -/

namespace TaskMonitor.Percent

/-! ## Reading escapes -/

theorem hexValue?_hexDigit : ∀ n < 16, hexValue? (hexDigit n) = some n := by decide

theorem decode_cons {c : Char} (h : c ≠ '%') (rest : List Char) :
    decode (c :: rest) = String.utf8EncodeChar c ++ decode rest := by
  rw [decode]
  rintro a b more rfl -
  exact h rfl

/-- The text does not begin with two hexadecimal digits. -/
def BeginsNoEscape (text : List Char) : Prop :=
  ∀ a b rest, text = a :: b :: rest → hexValue? a = none ∨ hexValue? b = none

theorem beginsNoEscape_percent (rest : List Char) : BeginsNoEscape ('%' :: rest) := by
  intro a b more h
  obtain ⟨rfl, -⟩ := List.cons.inj h
  exact .inl rfl

theorem decode_percent {text : List Char} (h : BeginsNoEscape text) :
    decode ('%' :: text) = 0x25 :: decode text := by
  match text with
  | [] => rfl
  | [a] => rfl
  | a :: b :: rest =>
      rw [decode]
      rcases h a b rest rfl with hnone | hnone
      · simp [hnone]
      · simp [hnone]

theorem decode_escape (byte : UInt8) (rest : List Char) :
    decode (escape byte ++ rest) = byte :: decode rest := by
  have hbyte := byte.toNat_lt
  have hhigh := hexValue?_hexDigit (byte.toNat / 16) (by omega)
  have hlow := hexValue?_hexDigit (byte.toNat % 16) (by omega)
  have hvalue : byte.toNat / 16 * 16 + byte.toNat % 16 = byte.toNat := by omega
  simp [escape, decode, hhigh, hlow, hvalue]

theorem decode_escapes (bytes : List UInt8) (rest : List Char) :
    decode (bytes.flatMap escape ++ rest) = bytes ++ decode rest := by
  induction bytes with
  | nil => rfl
  | cons byte bytes ih => simp [decode_escape, ih]

/-! ## Writing escapes -/

/-- Neither what begins an escape nor what goes on in it is escaped itself. -/
def KeepsEscapes (also : List Char) : Prop := ∀ c ∈ also, c ≠ '%' ∧ hexValue? c = none

theorem keepsEscapes_pathSet : KeepsEscapes pathSet := by
  have hall : pathSet.all (fun c => decide (c ≠ '%' ∧ hexValue? c = none)) = true := by decide
  intro c hc
  exact of_decide_eq_true (List.all_eq_true.mp hall c hc)

def isEscaped (also : List Char) (c : Char) : Bool := isUnsafe c || also.contains c

theorem encode_nil (also : List Char) : encode also [] = [] := rfl

theorem encode_append (also xs ys : List Char) :
    encode also (xs ++ ys) = encode also xs ++ encode also ys :=
  List.flatMap_append

theorem encode_cons (also : List Char) (c : Char) (rest : List Char) :
    encode also (c :: rest) =
      (if isEscaped also c then (String.utf8EncodeChar c).flatMap escape else [c]) ++
        encode also rest := rfl

theorem encode_escaped {also : List Char} {c : Char} (h : isEscaped also c = true)
    (rest : List Char) :
    encode also (c :: rest) = (String.utf8EncodeChar c).flatMap escape ++ encode also rest := by
  rw [encode_cons, if_pos h]

theorem encode_kept {also : List Char} {c : Char} (h : isEscaped also c = false)
    (rest : List Char) : encode also (c :: rest) = c :: encode also rest := by
  rw [encode_cons, if_neg (Bool.eq_false_iff.mp h), List.singleton_append]

theorem exists_encode_escaped {also : List Char} {c : Char} (h : isEscaped also c = true)
    (rest : List Char) : ∃ more, encode also (c :: rest) = '%' :: more := by
  rw [encode_escaped h]
  obtain ⟨byte, bytes, hbytes⟩ := List.exists_cons_of_ne_nil (@String.utf8EncodeChar_ne_nil c)
  rw [hbytes]
  exact ⟨_, rfl⟩

theorem isUnsafe_of_hexValue? {c : Char} {v : Nat} (h : hexValue? c = some v) :
    isUnsafe c = false := by
  have hle : ∀ x y : Char, x ≤ y ↔ x.toNat ≤ y.toNat := fun _ _ => Iff.rfl
  have hrange : 0x20 ≤ c.toNat ∧ c.toNat < 0x7F := by
    simp only [hexValue?, Text.isDigit, Bool.and_eq_true, decide_eq_true_eq, hle,
      Char.reduceToNat] at h
    split at h
    · omega
    split at h
    · omega
    split at h
    · omega
    · cases h
  simp only [isUnsafe, Bool.or_eq_false_iff, decide_eq_false_iff_not]
  omega

theorem isEscaped_of_hexValue? {also : List Char} (halso : KeepsEscapes also) {c : Char} {v : Nat}
    (h : hexValue? c = some v) : isEscaped also c = false := by
  have hnot : c ∉ also := fun hc => by simp [(halso c hc).2] at h
  simp [isEscaped, isUnsafe_of_hexValue? h, hnot]

theorem isEscaped_percent {also : List Char} (halso : KeepsEscapes also) :
    isEscaped also '%' = false := by
  have hnot : '%' ∉ also := fun hc => (halso _ hc).1 rfl
  simp [isEscaped, isUnsafe, hnot]

/-- Escaping makes no new escape after a percent sign. -/
theorem BeginsNoEscape.encode {text : List Char} (h : BeginsNoEscape text) (also : List Char) :
    BeginsNoEscape (encode also text) := by
  match text with
  | [] => exact fun a b rest heq => by simp [encode_nil] at heq
  | a :: rest =>
      by_cases ha : isEscaped also a = true
      · obtain ⟨more, hmore⟩ := exists_encode_escaped ha rest
        rw [hmore]
        exact beginsNoEscape_percent more
      · rw [encode_kept (Bool.eq_false_iff.mpr ha)]
        intro a' y more heq
        obtain ⟨rfl, hrest⟩ := List.cons.inj heq
        match rest with
        | [] => simp [encode_nil] at hrest
        | b :: rest =>
            by_cases hb : isEscaped also b = true
            · obtain ⟨more', hmore⟩ := exists_encode_escaped hb rest
              rw [hmore] at hrest
              obtain ⟨rfl, -⟩ := List.cons.inj hrest
              exact .inr rfl
            · rw [encode_kept (Bool.eq_false_iff.mpr hb)] at hrest
              obtain ⟨rfl, -⟩ := List.cons.inj hrest
              exact h a b rest rfl

/-- An escaped text stands for the bytes that the text stands for. -/
theorem decode_encode {also : List Char} (halso : KeepsEscapes also) (text : List Char) :
    decode (encode also text) = decode text := by
  have hpercent := isEscaped_percent halso
  fun_induction decode text with
  | case1 => rfl
  | case2 a b rest high low hlow hhigh ih =>
      have ha := isEscaped_of_hexValue? halso hhigh
      have hb := isEscaped_of_hexValue? halso hlow
      rw [encode_kept hpercent, encode_kept ha, encode_kept hb]
      simp only [decode, hhigh, hlow, ih]
  | case3 a b rest hnot ih =>
      have hbegins : BeginsNoEscape (a :: b :: rest) := by
        intro a' b' rest' heq
        obtain ⟨rfl, rfl, -⟩ : a = a' ∧ b = b' ∧ rest = rest' := by simpa using heq
        cases ha : hexValue? a with
        | none => exact .inl rfl
        | some high =>
            cases hb : hexValue? b with
            | none => exact .inr rfl
            | some low => exact (hnot high low ha hb).elim
      rw [encode_kept hpercent, decode_percent (hbegins.encode also), ih]
  | case4 c rest hnot ih =>
      by_cases hpercent' : c = '%'
      · subst hpercent'
        have hbegins : BeginsNoEscape rest := fun a b more heq => (hnot a b more rfl heq).elim
        rw [encode_kept hpercent, decode_percent (hbegins.encode also), ih]
        rfl
      · by_cases hc : isEscaped also c = true
        · rw [encode_escaped hc, decode_escapes, ih]
        · rw [encode_kept (Bool.eq_false_iff.mpr hc), decode_cons hpercent', ih]

end TaskMonitor.Percent
