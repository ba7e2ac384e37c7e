import TapeMachine.Text.Utf8

set_option autoImplicit false

namespace TapeMachine.Text.Utf8

variable {n k : Nat}

section Lead

private theorem lead?_one (h : n < 0x80) : lead? (UInt8.ofNat n) = some ⟨0, n, 0x80, 0xBF⟩ := by
  have value : (UInt8.ofNat n).toNat = n := by
    rw [UInt8.toNat_ofNat']
    omega
  simp only [lead?, value, if_pos h]

private theorem lead?_two (low : 2 ≤ n) (high : n < 0x20) :
    lead? (UInt8.ofNat (0xC0 + n)) = some ⟨1, n, 0x80, 0xBF⟩ := by
  have value : (UInt8.ofNat (0xC0 + n)).toNat = 0xC0 + n := by
    rw [UInt8.toNat_ofNat']
    omega
  simp only [lead?, value, Nat.add_sub_cancel_left]
  rw [if_neg (by omega), if_neg (by omega), if_pos (by omega)]

private theorem lead?_three (high : n < 0x10) : lead? (UInt8.ofNat (0xE0 + n)) =
    some ⟨2, n, if n = 0 then 0xA0 else 0x80, if n = 0xD then 0x9F else 0xBF⟩ := by
  have value : (UInt8.ofNat (0xE0 + n)).toNat = 0xE0 + n := by
    rw [UInt8.toNat_ofNat']
    omega
  have first : 0xE0 + n = 0xE0 ↔ n = 0 := by omega
  have surrogate : 0xE0 + n = 0xED ↔ n = 0xD := by omega
  simp only [lead?, value, Nat.add_sub_cancel_left, first, surrogate]
  rw [if_neg (by omega), if_neg (by omega), if_neg (by omega), if_pos (by omega)]

private theorem lead?_four (high : n < 5) : lead? (UInt8.ofNat (0xF0 + n)) =
    some ⟨3, n, if n = 0 then 0x90 else 0x80, if n = 4 then 0x8F else 0xBF⟩ := by
  have value : (UInt8.ofNat (0xF0 + n)).toNat = 0xF0 + n := by
    rw [UInt8.toNat_ofNat']
    omega
  have first : 0xF0 + n = 0xF0 ↔ n = 0 := by omega
  have last : 0xF0 + n = 0xF4 ↔ n = 4 := by omega
  simp only [lead?, value, Nat.add_sub_cancel_left, first, last]
  rw [if_neg (by omega), if_neg (by omega), if_neg (by omega), if_neg (by omega),
    if_pos (by omega)]

end Lead

section Following

variable {low high : UInt8} {bits count : Nat} {rest : List UInt8}

private theorem following_succ {result : Nat × List UInt8} (small : k < 64)
    (above : low.toNat ≤ 0x80 + k)
    (below : 0x80 + k ≤ high.toNat)
    (more : following 0x80 0xBF (bits * 64 + k) count rest = .ok result) :
    following low high bits (count + 1) (UInt8.ofNat (0x80 + k) :: rest) = .ok result := by
  have value : (UInt8.ofNat (0x80 + k)).toNat = 0x80 + k := by
    rw [UInt8.toNat_ofNat']
    omega
  have within : low ≤ UInt8.ofNat (0x80 + k) ∧ UInt8.ofNat (0x80 + k) ≤ high := by
    rw [UInt8.le_iff_toNat_le, UInt8.le_iff_toNat_le, value]
    exact ⟨above, below⟩
  rw [following, if_pos within, value, Nat.add_sub_cancel_left, more]

private theorem following_succ_of_lt {result : Nat × List UInt8} (small : k < 64)
    (more : following 0x80 0xBF (bits * 64 + k) count rest = .ok result) :
    following 0x80 0xBF bits (count + 1) (UInt8.ofNat (0x80 + k) :: rest) = .ok result := by
  have bound : (0xBF : UInt8).toNat = 0xBF := rfl
  exact following_succ small (Nat.le_add_right _ _) (by omega) more

end Following

section Character

private theorem character_of_following {b low high : UInt8} {count bits : Nat}
    {bytes rest : List UInt8}
    {c : Char} (announced : lead? b = some ⟨count, bits, low, high⟩)
    (read : following low high bits count bytes = .ok (c.toNat, rest)) :
    character b bytes = .ok (c, rest) := by
  rw [character, announced]
  simp only [read, Char.ofNat_toNat]

theorem character_encodeChar (c : Char) (rest : List UInt8) :
    ∃ b bytes, encodeChar c ++ rest = b :: bytes ∧ character b bytes = .ok (c, rest) := by
  have valid : c.toNat < 0xD800 ∨ 0xDFFF < c.toNat ∧ c.toNat < 0x110000 := c.valid
  have bounds : (0x8F : UInt8).toNat = 0x8F ∧ (0x90 : UInt8).toNat = 0x90 ∧
      (0x9F : UInt8).toNat = 0x9F ∧ (0xA0 : UInt8).toNat = 0xA0 ∧ (0x80 : UInt8).toNat = 0x80 ∧
      (0xBF : UInt8).toNat = 0xBF := by decide
  simp only [encodeChar]
  -- One case for each number of bytes; surrogates and what lies beyond the last character are the
  -- gaps that the bounds of the second byte leave out.
  split
  · next one => exact ⟨_, rest, rfl, character_of_following (lead?_one one) rfl⟩
  · split
    · next _ two =>
      refine ⟨_, _, rfl, character_of_following (lead?_two (by omega) (by omega)) ?_⟩
      apply following_succ_of_lt (by omega)
      rw [following]
      congr 2
      omega
    · split
      · next _ _ three =>
        refine ⟨_, _, rfl, character_of_following (lead?_three (by omega)) ?_⟩
        apply following_succ (by omega)
        · split <;> omega
        · split <;> omega
        · apply following_succ_of_lt (by omega)
          rw [following]
          congr 2
          omega
      · next _ _ _ =>
        refine ⟨_, _, rfl, character_of_following (lead?_four (by omega)) ?_⟩
        apply following_succ (by omega)
        · split <;> omega
        · split <;> omega
        · apply following_succ_of_lt (by omega)
          apply following_succ_of_lt (by omega)
          rw [following]
          congr 2
          omega

end Character

section Text

theorem readFrom_of_character {position : Nat} {b : UInt8} {bytes after : List UInt8} {c : Char}
    (read : character b bytes = .ok (c, after)) :
    readFrom position (b :: bytes) =
      (c :: (readFrom (position + width b) after).1, (readFrom (position + width b) after).2) := by
  rw [readFrom]
  split
  · next failed => rw [read] at failed; contradiction
  · next found =>
    rw [read] at found
    cases found
    rfl

private theorem readFrom_encode (text : List Char) (position : Nat) :
    readFrom position (encode text) = (text, none) := by
  induction text generalizing position with
  | nil => rw [encode, List.flatMap_nil, readFrom]
  | cons c text ih =>
    obtain ⟨b, bytes, split, read⟩ := character_encodeChar c (encode text)
    have bytesOf : encode (c :: text) = b :: bytes := split
    rw [bytesOf, readFrom_of_character read, ih]

theorem decode_encode (text : List Char) : decode (encode text) = .ok text := by
  rw [decode, readFrom_encode]

theorem decode_ofString (text : String) : decode (ofString text) = .ok text.toList :=
  decode_encode text.toList

end Text

end TapeMachine.Text.Utf8
