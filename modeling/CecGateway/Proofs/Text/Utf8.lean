import CecGateway.Text.Utf8
import Mathlib.Data.List.Basic

/-!
# Decoding what has been encoded

Encoded characters are read back as they were, whatever follows them.
-/

namespace CecGateway.Utf8

theorem toNat_toUInt8 {n : Nat} (h : n < 256) : n.toUInt8.toNat = n := by
  simpa using h

theorem toNat_lt (c : Char) : c.toNat < 0x110000 := by
  obtain h | ⟨-, h⟩ := c.valid
  · exact Nat.lt_trans h (by decide)
  · exact h

theorem not_isSurrogate (c : Char) : c.toNat < 0xD800 ∨ 0xDFFF < c.toNat :=
  c.valid.imp id (·.1)

/-! ## Sequences of each length -/

section

variable {a b c d : UInt8}

theorem isContinuation_iff : isContinuation b = true ↔ 0x80 ≤ b.toNat ∧ b.toNat ≤ 0xBF := by
  simp [isContinuation, UInt8.le_iff_toNat_le]

theorem decode_one (ha : a.toNat < 0x80) (rest : List UInt8) :
    decode (a :: rest) = .char (Char.ofNat a.toNat) :: decode rest := by
  rw [decode.eq_def]
  exact if_pos (UInt8.lt_iff_toNat_lt.mpr ha)

theorem decode_two (ha : 0xC2 ≤ a.toNat ∧ a.toNat ≤ 0xDF) (hb : isContinuation b = true)
    (rest : List UInt8) : decode (a :: b :: rest) = .char (char2 a b) :: decode rest := by
  have hhigh : ¬ a < 0x80 := by simp only [UInt8.lt_iff_toNat_lt, UInt8.reduceToNat]; omega
  have hlead : (0xC2 ≤ a && a ≤ 0xDF) = true := by simpa [UInt8.le_iff_toNat_le] using ha
  rw [decode.eq_def]
  dsimp only
  rw [if_neg hhigh, if_pos hlead, if_pos hb]

theorem decode_three (ha : 0xE0 ≤ a.toNat ∧ a.toNat ≤ 0xEF) (hb : admitsSecond a b = true)
    (hc : isContinuation c = true) (rest : List UInt8) :
    decode (a :: b :: c :: rest) = .char (char3 a b c) :: decode rest := by
  have hhigh : ¬ a < 0x80 := by simp only [UInt8.lt_iff_toNat_lt, UInt8.reduceToNat]; omega
  have hlong : ¬ (0xC2 ≤ a && a ≤ 0xDF) = true := by
    simp only [Bool.and_eq_true, decide_eq_true_eq, UInt8.le_iff_toNat_le, UInt8.reduceToNat]
    omega
  have hlead : (0xE0 ≤ a && a ≤ 0xEF) = true := by simpa [UInt8.le_iff_toNat_le] using ha
  rw [decode.eq_def]
  dsimp only
  rw [if_neg hhigh, if_neg hlong, if_pos hlead, if_pos hb, if_pos hc]

theorem decode_four (ha : 0xF0 ≤ a.toNat ∧ a.toNat ≤ 0xF4) (hb : admitsSecond a b = true)
    (hc : isContinuation c = true) (hd : isContinuation d = true) (rest : List UInt8) :
    decode (a :: b :: c :: d :: rest) = .char (char4 a b c d) :: decode rest := by
  have hhigh : ¬ a < 0x80 := by simp only [UInt8.lt_iff_toNat_lt, UInt8.reduceToNat]; omega
  have hlong : ¬ (0xC2 ≤ a && a ≤ 0xDF) = true := by
    simp only [Bool.and_eq_true, decide_eq_true_eq, UInt8.le_iff_toNat_le, UInt8.reduceToNat]
    omega
  have hlonger : ¬ (0xE0 ≤ a && a ≤ 0xEF) = true := by
    simp only [Bool.and_eq_true, decide_eq_true_eq, UInt8.le_iff_toNat_le, UInt8.reduceToNat]
    omega
  have hlead : (0xF0 ≤ a && a ≤ 0xF4) = true := by simpa [UInt8.le_iff_toNat_le] using ha
  rw [decode.eq_def]
  dsimp only
  rw [if_neg hhigh, if_neg hlong, if_neg hlonger, if_pos hlead, if_pos hb, if_pos hc, if_pos hd]

/-- After a lead of three or four bytes the second byte must not make the form too long, a
surrogate or too great. -/
theorem admitsSecond_iff : admitsSecond a b = true ↔
    0x80 ≤ b.toNat ∧ b.toNat ≤ 0xBF ∧ (a.toNat = 0xE0 → 0xA0 ≤ b.toNat) ∧
      (a.toNat = 0xED → b.toNat ≤ 0x9F) ∧ (a.toNat = 0xF0 → 0x90 ≤ b.toNat) ∧
      (a.toNat = 0xF4 → b.toNat ≤ 0x8F) := by
  unfold admitsSecond
  simp only [← UInt8.toNat_inj, UInt8.reduceToNat]
  split
  · simp [UInt8.le_iff_toNat_le]
    omega
  · split
    · simp [UInt8.le_iff_toNat_le]
      omega
    · split
      · simp [UInt8.le_iff_toNat_le]
        omega
      · split
        · simp [UInt8.le_iff_toNat_le]
          omega
        · rw [isContinuation_iff]
          omega

end

/-! ## Characters -/

theorem ofNat_eq {n : Nat} {c : Char} (h : n = c.toNat) : Char.ofNat n = c := by
  rw [h, Char.ofNat_toNat]

theorem decode_encodeChar (c : Char) (rest : List UInt8) :
    decode (encodeChar c ++ rest) = .char c :: decode rest := by
  have hlt := toNat_lt c
  have hsurrogate := not_isSurrogate c
  unfold encodeChar
  dsimp only
  split
  · rename_i hn
    have ha := toNat_toUInt8 (show c.toNat < 256 by omega)
    rw [List.singleton_append, decode_one (by omega), ofNat_eq ha]
  · split
    · have ha := toNat_toUInt8 (show 0xC0 + c.toNat / 0x40 < 256 by omega)
      have hb := toNat_toUInt8 (show 0x80 + c.toNat % 0x40 < 256 by omega)
      rw [List.cons_append, List.singleton_append,
        decode_two (by omega) (isContinuation_iff.mpr (by omega)), char2,
        ofNat_eq (c := c) (by omega)]
    · split
      · have ha := toNat_toUInt8 (show 0xE0 + c.toNat / 0x1000 < 256 by omega)
        have hb := toNat_toUInt8 (show 0x80 + c.toNat / 0x40 % 0x40 < 256 by omega)
        have hc := toNat_toUInt8 (show 0x80 + c.toNat % 0x40 < 256 by omega)
        simp only [List.cons_append, List.nil_append]
        rw [decode_three (by omega) (admitsSecond_iff.mpr (by omega))
          (isContinuation_iff.mpr (by omega)), char3, ofNat_eq (c := c) (by omega)]
      · have ha := toNat_toUInt8 (show 0xF0 + c.toNat / 0x40000 < 256 by omega)
        have hb := toNat_toUInt8 (show 0x80 + c.toNat / 0x1000 % 0x40 < 256 by omega)
        have hc := toNat_toUInt8 (show 0x80 + c.toNat / 0x40 % 0x40 < 256 by omega)
        have hd := toNat_toUInt8 (show 0x80 + c.toNat % 0x40 < 256 by omega)
        simp only [List.cons_append, List.nil_append]
        rw [decode_four (by omega) (admitsSecond_iff.mpr (by omega))
          (isContinuation_iff.mpr (by omega)) (isContinuation_iff.mpr (by omega)), char4,
          ofNat_eq (c := c) (by omega)]

theorem decode_encode_append (text : List Char) (rest : List UInt8) :
    decode (encode text ++ rest) = text.map .char ++ decode rest := by
  induction text with
  | nil => rfl
  | cons c text ih =>
      rw [encode, List.flatMap_cons, List.append_assoc, decode_encodeChar]
      exact congrArg (.char c :: ·) ih

theorem decode_encode (text : List Char) : decode (encode text) = text.map .char := by
  simpa [decode] using decode_encode_append text []

/-- A byte below 128 is a character of its own. -/
theorem exists_of_mem_encode {b : UInt8} (hb : b.toNat < 0x80) {text : List Char}
    (hmem : b ∈ encode text) : ∃ c ∈ text, c.toNat = b.toNat := by
  obtain ⟨c, hc, hmem⟩ := List.mem_flatMap.mp hmem
  have hlt := toNat_lt c
  refine ⟨c, hc, ?_⟩
  unfold encodeChar at hmem
  dsimp only at hmem
  split at hmem
  · rw [List.mem_singleton.mp hmem, toNat_toUInt8 (by omega)]
  · -- every byte of a longer sequence has its highest bit set
    have hnot {n : Nat} (hn : n < 256) (hhigh : 0x80 ≤ n) : b ≠ n.toUInt8 := by
      rintro rfl
      rw [toNat_toUInt8 hn] at hb
      omega
    split at hmem
    · simp only [List.mem_cons, List.not_mem_nil, or_false] at hmem
      obtain h | h := hmem <;> exact absurd h (hnot (by omega) (by omega))
    · split at hmem
      · simp only [List.mem_cons, List.not_mem_nil, or_false] at hmem
        obtain h | h | h := hmem <;> exact absurd h (hnot (by omega) (by omega))
      · simp only [List.mem_cons, List.not_mem_nil, or_false] at hmem
        obtain h | h | h | h := hmem <;> exact absurd h (hnot (by omega) (by omega))

theorem newline_not_mem_bytes {text : String} (h : '\n' ∉ text.toList) : 10 ∉ bytes text := by
  intro hmem
  obtain ⟨c, hc, hcode⟩ := exists_of_mem_encode (by decide) hmem
  have hnewline : c = '\n' := Char.toNat_inj.mp hcode
  exact h (hnewline ▸ hc)

theorem encodeChar_ne_nil (c : Char) : encodeChar c ≠ [] := by
  unfold encodeChar
  dsimp only
  split
  · simp
  · split
    · simp
    · split <;> simp

/-- If the last byte is below 128, it is the last character. -/
theorem exists_of_getLast?_encode {b : UInt8} (hb : b.toNat < 0x80) {text : List Char}
    (hlast : (encode text).getLast? = some b) :
    ∃ c, text.getLast? = some c ∧ c.toNat = b.toNat := by
  obtain rfl | ⟨front, c, rfl⟩ := text.eq_nil_or_concat
  · contradiction
  · rw [List.concat_eq_append] at hlast ⊢
    have hencode : encode (front ++ [c]) = encode front ++ encodeChar c := by
      simp [encode]
    rw [hencode, List.getLast?_append_of_ne_nil _ (encodeChar_ne_nil c)] at hlast
    have hmem : b ∈ encode [c] := by simpa [encode] using List.mem_of_getLast? hlast
    obtain ⟨d, hd, hcode⟩ := exists_of_mem_encode hb hmem
    obtain rfl := List.mem_singleton.mp hd
    exact ⟨d, by simp, hcode⟩

theorem lenient_bytes (text : String) : lenient (bytes text) = text := by
  have hchars : text.toList.map (Piece.lenient ∘ Piece.char) = text.toList := List.map_id _
  rw [lenient, bytes, decode_encode, List.map_map, hchars, String.ofList_toList]

theorem bytes_ne_nil {text : String} (hnonempty : text ≠ "") : bytes text ≠ [] := by
  intro hnone
  apply hnonempty
  rw [← lenient_bytes text, hnone]
  rfl

end CecGateway.Utf8
