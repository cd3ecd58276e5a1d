import Mathlib
import WifiLink.Text.Utf8

/-!
# Texts written in UTF-8

Reading the bytes of a text gives the text back. Each character is read from its own bytes, whatever
stands before and after them.
-/

namespace WifiLink.Text

/-- The bytes of a character. -/
def charBytes (c : Char) : List ℕ := (String.utf8EncodeChar c).map UInt8.toNat

/-- The bytes of the characters of a text. -/
def utf8Bytes (text : List Char) : List ℕ := text.flatMap charBytes

/-! ## Bytes of a string -/

theorem toList_loop (bytes : ByteArray) (position : ℕ) (read : List UInt8) :
    ByteArray.toList.loop bytes position read =
      read.reverse ++ bytes.data.toList.drop position := by
  fun_induction ByteArray.toList.loop bytes position read with
  | case1 position read inside inductionHypothesis =>
      have bound : position < bytes.data.toList.length := by simpa using inside
      rw [inductionHypothesis, List.drop_eq_getElem_cons bound]
      simp [ByteArray.get!, inside]
  | case2 position read outside =>
      rw [List.drop_eq_nil_of_le (by simpa using Nat.le_of_not_lt outside)]
      simp

theorem toUTF8_bytes (text : String) :
    text.toUTF8.toList.map UInt8.toNat = utf8Bytes text.toList := by
  have encoded : text.toUTF8 = (text.toList.flatMap String.utf8EncodeChar).toByteArray := by
    conv_lhs => rw [← String.ofList_toList (s := text)]
    exact String.toUTF8_eq_toByteArray
  rw [encoded, ByteArray.toList, toList_loop, utf8Bytes]
  simp only [List.reverse_nil, List.drop_zero, List.nil_append, List.toList_data_toByteArray,
    List.map_flatMap]
  rfl

/-! ## One character -/

theorem toNat_byte {n : ℕ} (bound : n < 256) : (UInt8.ofNat n).toNat = n :=
  UInt8.toNat_ofNat_of_lt' bound

section Character

variable {c : Char}

theorem charBytes_of_one (small : c.toNat < 0x80) : charBytes c = [c.toNat] := by
  have code : c.val.toNat = c.toNat := rfl
  simp only [charBytes, String.utf8EncodeChar, code]
  rw [if_pos (by omega)]
  simp only [List.map_cons, List.map_nil, toNat_byte (show c.toNat < 256 by omega)]

theorem charBytes_of_two (low : 0x80 ≤ c.toNat) (high : c.toNat < 0x800) :
    charBytes c = [c.toNat / 64 + 0xC0, c.toNat % 64 + 0x80] := by
  have code : c.val.toNat = c.toNat := rfl
  simp only [charBytes, String.utf8EncodeChar, code]
  rw [if_neg (by omega), if_pos (by omega)]
  simp only [List.map_cons, List.map_nil]
  rw [toNat_byte (by omega), toNat_byte (by omega), Nat.mod_eq_of_lt (by omega)]

theorem charBytes_of_three (low : 0x800 ≤ c.toNat) (high : c.toNat < 0x10000) :
    charBytes c =
      [c.toNat / 4096 + 0xE0, c.toNat / 64 % 64 + 0x80, c.toNat % 64 + 0x80] := by
  have code : c.val.toNat = c.toNat := rfl
  simp only [charBytes, String.utf8EncodeChar, code]
  rw [if_neg (by omega), if_neg (by omega), if_pos (by omega)]
  simp only [List.map_cons, List.map_nil]
  rw [toNat_byte (by omega), toNat_byte (by omega), toNat_byte (by omega),
    Nat.mod_eq_of_lt (show c.toNat / 4096 < 16 by omega)]

theorem charBytes_of_four (low : 0x10000 ≤ c.toNat) (high : c.toNat < 0x110000) :
    charBytes c =
      [c.toNat / 262144 + 0xF0, c.toNat / 4096 % 64 + 0x80, c.toNat / 64 % 64 + 0x80,
        c.toNat % 64 + 0x80] := by
  have code : c.val.toNat = c.toNat := rfl
  simp only [charBytes, String.utf8EncodeChar, code]
  rw [if_neg (by omega), if_neg (by omega), if_neg (by omega)]
  simp only [List.map_cons, List.map_nil]
  rw [toNat_byte (by omega), toNat_byte (by omega), toNat_byte (by omega), toNat_byte (by omega),
    Nat.mod_eq_of_lt (show c.toNat / 262144 < 8 by omega)]

end Character

/-- A first byte and as many continuation bytes as it asks for are read together. -/
theorem decodeUtf8From_sequence
    {position lead lower upper : ℕ} (following : List ℕ) {c : Char} (long : 0x80 ≤ lead)
    (asked : utf8Tail? lead = some (following.length, lower, upper))
    (inside : tailLength lower upper following = following.length)
    (code : following.foldl (fun code byte => 64 * code + byte % 64) (leadBits lead) = c.toNat)
    (rest : List ℕ) :
    decodeUtf8From position (lead :: (following ++ rest)) =
      (decodeUtf8From (position + 1 + following.length) rest).map (c :: ·) := by
  rw [decodeUtf8From, if_neg (not_lt.mpr long), asked]
  simp only [List.take_left', List.drop_left', inside, if_true, code, Char.ofNat_toNat]

/-- What a first byte of two asks for. -/
theorem utf8Tail?_of_two {lead : ℕ} (low : 0xC2 ≤ lead) (high : lead ≤ 0xDF) :
    utf8Tail? lead = some (1, 0x80, 0xBF) :=
  if_pos ⟨low, high⟩

/-- The first continuation byte of three keeps within the bounds, as the code point is neither small
nor a surrogate. -/
theorem exists_utf8Tail?_of_three
    {v : ℕ} (low : 0x800 ≤ v) (high : v < 0x10000) (scalar : v < 0xD800 ∨ 0xDFFF < v) :
    ∃ lower upper, utf8Tail? (v / 4096 + 0xE0) = some (2, lower, upper) ∧
      lower ≤ v / 64 % 64 + 0x80 ∧ v / 64 % 64 + 0x80 ≤ upper := by
  unfold utf8Tail?
  rw [if_neg (by omega)]
  split_ifs with least surrogates
  · exact ⟨0xA0, 0xBF, rfl, by omega, by omega⟩
  · exact ⟨0x80, 0x9F, rfl, by omega, by omega⟩
  · exact ⟨0x80, 0xBF, rfl, by omega, by omega⟩
  all_goals omega

/-- That of four does, as the code point is neither small nor beyond the last one. -/
theorem exists_utf8Tail?_of_four {v : ℕ} (low : 0x10000 ≤ v) (high : v < 0x110000) :
    ∃ lower upper, utf8Tail? (v / 262144 + 0xF0) = some (3, lower, upper) ∧
      lower ≤ v / 4096 % 64 + 0x80 ∧ v / 4096 % 64 + 0x80 ≤ upper := by
  unfold utf8Tail?
  rw [if_neg (by omega), if_neg (by omega), if_neg (by omega), if_neg (by omega)]
  split_ifs with least last
  · exact ⟨0x90, 0xBF, rfl, by omega, by omega⟩
  · exact ⟨0x80, 0x8F, rfl, by omega, by omega⟩
  · exact ⟨0x80, 0xBF, rfl, by omega, by omega⟩
  · omega

theorem decodeUtf8From_charBytes (position : ℕ) (c : Char) (rest : List ℕ) :
    decodeUtf8From position (charBytes c ++ rest) =
      (decodeUtf8From (position + (charBytes c).length) rest).map (c :: ·) := by
  have valid : c.toNat < 0xD800 ∨ 0xDFFF < c.toNat ∧ c.toNat < 0x110000 := c.valid
  rcases Nat.lt_or_ge c.toNat 0x80 with one | many
  · rw [charBytes_of_one one, List.singleton_append, decodeUtf8From, if_pos one, Char.ofNat_toNat]
    rfl
  rcases Nat.lt_or_ge c.toNat 0x800 with two | many
  · rw [charBytes_of_two many two]
    refine decodeUtf8From_sequence [_] (by omega)
      (utf8Tail?_of_two (by omega) (by omega)) ?_ ?_ rest
    · simp only [tailLength]
      rw [if_pos (by omega)]
      rfl
    · simp only [List.foldl_cons, List.foldl_nil, leadBits]
      rw [if_pos (by omega)]
      omega
  rcases Nat.lt_or_ge c.toNat 0x10000 with three | many
  · obtain ⟨lower, upper, asked, above, below⟩ :=
      exists_utf8Tail?_of_three many three (valid.imp_right And.left)
    rw [charBytes_of_three many three]
    refine decodeUtf8From_sequence [_, _] (by omega) asked ?_ ?_ rest
    · simp only [tailLength]
      rw [if_pos ⟨above, below⟩, if_pos (by omega)]
      rfl
    · simp only [List.foldl_cons, List.foldl_nil, leadBits]
      rw [if_neg (by omega), if_pos (by omega)]
      omega
  · have last : c.toNat < 0x110000 := by omega
    obtain ⟨lower, upper, asked, above, below⟩ := exists_utf8Tail?_of_four many last
    rw [charBytes_of_four many last]
    refine decodeUtf8From_sequence [_, _, _] (by omega) asked ?_ ?_ rest
    · simp only [tailLength]
      rw [if_pos ⟨above, below⟩, if_pos (by omega), if_pos (by omega)]
      rfl
    · simp only [List.foldl_cons, List.foldl_nil, leadBits]
      rw [if_neg (by omega), if_neg (by omega)]
      omega

/-! ## Whole texts -/

theorem decodeUtf8From_utf8Bytes (position : ℕ) (text : List Char) :
    decodeUtf8From position (utf8Bytes text) = .ok text := by
  induction text generalizing position with
  | nil => rw [utf8Bytes, List.flatMap_nil, decodeUtf8From]
  | cons c rest inductionHypothesis =>
      have first : utf8Bytes (c :: rest) = charBytes c ++ utf8Bytes rest := List.flatMap_cons
      rw [first, decodeUtf8From_charBytes, inductionHypothesis]
      rfl

/-- The bytes of a text are read as that text. -/
theorem decodeUtf8_utf8Bytes (text : String) :
    decodeUtf8 (utf8Bytes text.toList) = .ok text := by
  rw [decodeUtf8, decodeUtf8From_utf8Bytes]
  exact congrArg Except.ok String.ofList_toList

end WifiLink.Text
