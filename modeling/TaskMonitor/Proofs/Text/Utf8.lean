import TaskMonitor.Text.Utf8

/-! # Reading what was written in UTF-8 -/

namespace TaskMonitor.Utf8

/-! ## One byte -/

theorem decodeFrom_cons (pending : Option Unfinished) (byte : UInt8) (rest : List UInt8) :
    decodeFrom pending (byte :: rest) =
      (step pending byte).1 ++ decodeFrom (step pending byte).2 rest := rfl

theorem decodeFrom_last {value low high n : Nat} (hbyte : n < 256) (hlow : low ≤ n)
    (hhigh : n ≤ high) (rest : List UInt8) :
    decodeFrom (some ⟨value, 1, low, high⟩) (UInt8.ofNat n :: rest) =
      Char.ofNat (value * 64 + (n - 0x80)) :: decodeFrom none rest := by
  have hn : (UInt8.ofNat n).toNat = n := by simpa using Nat.mod_eq_of_lt hbyte
  simp [decodeFrom_cons, step, hn, hlow, hhigh]

theorem decodeFrom_middle {value missing low high n : Nat} (hbyte : n < 256) (hlow : low ≤ n)
    (hhigh : n ≤ high) (hmissing : 1 < missing) (rest : List UInt8) :
    decodeFrom (some ⟨value, missing, low, high⟩) (UInt8.ofNat n :: rest) =
      decodeFrom (some ⟨value * 64 + (n - 0x80), missing - 1, 0x80, 0xBF⟩) rest := by
  have hn : (UInt8.ofNat n).toNat = n := by simpa using Nat.mod_eq_of_lt hbyte
  simp [decodeFrom_cons, step, hn, hlow, hhigh, Nat.not_le_of_lt hmissing]

theorem decodeFrom_first {n : Nat} {u : Unfinished} (h : start (UInt8.ofNat n) = ([], some u))
    (rest : List UInt8) :
    decodeFrom none (UInt8.ofNat n :: rest) = decodeFrom (some u) rest := by
  simp [decodeFrom_cons, step, h]

/-! ## First bytes -/

theorem start_one : ∀ n < 0x80, start (UInt8.ofNat n) = ([Char.ofNat n], none) := by
  decide

theorem start_two : ∀ n < 0x20, 2 ≤ n →
    start (UInt8.ofNat (n + 0xC0)) = ([], some ⟨n, 1, 0x80, 0xBF⟩) := by
  decide

theorem start_three : ∀ n < 0x10,
    start (UInt8.ofNat (n + 0xE0)) =
      ([], some ⟨n, 2, if n = 0 then 0xA0 else 0x80, if n = 13 then 0x9F else 0xBF⟩) := by
  decide

theorem start_four : ∀ n < 5,
    start (UInt8.ofNat (n + 0xF0)) =
      ([], some ⟨n, 3, if n = 0 then 0x90 else 0x80, if n = 4 then 0x8F else 0xBF⟩) := by
  decide

/-! ## One character -/

theorem toNat_bounds (c : Char) :
    c.val.toNat < 0x110000 ∧ (c.val.toNat < 0xD800 ∨ 0xDFFF < c.val.toNat) := by
  rcases c.valid with h | ⟨hlow, hhigh⟩
  · exact ⟨by omega, .inl h⟩
  · exact ⟨hhigh, .inr hlow⟩

/-- A character is read back from its bytes, whatever follows. -/
theorem decodeFrom_encode_char (c : Char) (rest : List UInt8) :
    decodeFrom none (String.utf8EncodeChar c ++ rest) = c :: decodeFrom none rest := by
  obtain ⟨hmax, hsurrogate⟩ := toNat_bounds c
  have hc : Char.ofNat c.val.toNat = c := Char.ofNat_toNat c
  unfold String.utf8EncodeChar
  generalize c.val.toNat = v at *
  simp only
  split
  next h1 =>
    have hstart := start_one v (by omega)
    simp [decodeFrom_cons, step, hstart, hc]
  split
  next h1 h2 =>
    have hlead : v / 64 % 0x20 = v / 64 := by omega
    have hvalue : v / 64 * 64 + (v % 0x40 + 0x80 - 0x80) = v := by omega
    simp only [hlead, List.cons_append, List.nil_append]
    rw [decodeFrom_first (start_two (v / 64) (by omega) (by omega)),
      decodeFrom_last (by omega) (by omega) (by omega), hvalue, hc]
  split
  next h1 h2 h3 =>
    have hlead : v / 4096 % 0x10 = v / 4096 := by omega
    have hvalue : (v / 4096 * 64 + (v / 64 % 0x40 + 0x80 - 0x80)) * 64 +
        (v % 0x40 + 0x80 - 0x80) = v := by omega
    simp only [hlead, List.cons_append, List.nil_append]
    rw [decodeFrom_first (start_three (v / 4096) (by omega)),
      decodeFrom_middle (by omega) (by split <;> omega) (by split <;> omega) (by omega),
      decodeFrom_last (by omega) (by omega) (by omega), hvalue, hc]
  next h1 h2 h3 =>
    have hlead : v / 262144 % 0x08 = v / 262144 := by omega
    have hvalue : ((v / 262144 * 64 + (v / 4096 % 0x40 + 0x80 - 0x80)) * 64 +
        (v / 64 % 0x40 + 0x80 - 0x80)) * 64 + (v % 0x40 + 0x80 - 0x80) = v := by omega
    simp only [hlead, List.cons_append, List.nil_append]
    rw [decodeFrom_first (start_four (v / 262144) (by omega)),
      decodeFrom_middle (by omega) (by split <;> omega) (by split <;> omega) (by omega),
      decodeFrom_middle (by omega) (by omega) (by omega) (by omega),
      decodeFrom_last (by omega) (by omega) (by omega), hvalue, hc]

/-! ## Texts -/

theorem encode_cons (c : Char) (text : List Char) :
    encode (c :: text) = String.utf8EncodeChar c ++ encode text := rfl

theorem decodeFrom_encode (text : List Char) : decodeFrom none (encode text) = text := by
  induction text with
  | nil => rfl
  | cons c text ih => rw [encode_cons, decodeFrom_encode_char, ih]

theorem decodeLossy_encode (text : List Char) :
    (decodeLossy (encode text)).toList = text := by
  simp [decodeLossy, decodeFrom_encode]

theorem decode?_encode (text : List Char) : decode? (encode text) = some (String.ofList text) := by
  have hbytes : (⟨(encode text).toArray⟩ : ByteArray) = text.utf8Encode :=
    ByteArray.ext List.data_toByteArray.symm
  rw [decode?, hbytes, String.fromUTF8?, dif_pos ByteArray.isValidUTF8_utf8Encode]
  rfl

theorem encode_append (xs ys : List Char) : encode (xs ++ ys) = encode xs ++ encode ys :=
  List.flatMap_append

@[simp] theorem encode_eq_nil {text : List Char} : encode text = [] ↔ text = [] := by
  constructor
  · intro h
    rw [← decodeFrom_encode text, h]
    rfl
  · rintro rfl
    rfl

/-- A byte of a single-byte character stands for that character only. -/
theorem mem_encode {text : List Char} {n : Nat} (hn : n < 0x80)
    (h : UInt8.ofNat n ∈ encode text) : Char.ofNat n ∈ text := by
  obtain ⟨c, hc, hbyte⟩ := List.mem_flatMap.mp h
  suffices hvalue : c.val.toNat = n by
    have hofNat : Char.ofNat c.val.toNat = c := Char.ofNat_toNat c
    rwa [← hvalue, hofNat]
  have hlow : (UInt8.ofNat n).toNat = n := by
    rw [UInt8.toNat_ofNat', Nat.mod_eq_of_lt (by omega)]
  have hmem : n ∈ (String.utf8EncodeChar c).map UInt8.toNat :=
    List.mem_map.mpr ⟨_, hbyte, hlow⟩
  revert hmem
  unfold String.utf8EncodeChar
  generalize c.val.toNat = v
  -- All bytes of a longer form are at least 0x80.
  simp only
  split
  · simp only [List.map_cons, List.map_nil, List.mem_singleton, UInt8.toNat_ofNat']
    omega
  split
  · simp only [List.map_cons, List.map_nil, List.mem_cons, List.not_mem_nil, or_false,
      UInt8.toNat_ofNat']
    omega
  split
  · simp only [List.map_cons, List.map_nil, List.mem_cons, List.not_mem_nil, or_false,
      UInt8.toNat_ofNat']
    omega
  · simp only [List.map_cons, List.map_nil, List.mem_cons, List.not_mem_nil, or_false,
      UInt8.toNat_ofNat']
    omega

end TaskMonitor.Utf8
