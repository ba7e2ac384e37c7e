import TapeMachine.Proofs.Text.Utf8

/-!
Well-formed UTF-8, said of the bytes without reading them. Main statements: bytes can be read
exactly if they are code points one behind the other, each in its shortest form and none of them a
surrogate or past the last one, and these are the code points that are read; a character leaves
behind one byte that begins it, and a byte of seven bits stands for nothing but itself.
-/

set_option autoImplicit false

namespace TapeMachine.Text.Utf8

/-- Whether a byte lies in the range of those that follow the first byte of a character. -/
def Continues (b : UInt8) : Prop := 0x80 ≤ b.toNat ∧ b.toNat ≤ 0xBF

instance : DecidablePred Continues := fun _ => inferInstanceAs (Decidable (_ ∧ _))

/--
The bytes that a code point takes. The first one tells by its highest bits how many there are, and
holds the highest bits of the number; each of the others holds six more. A number takes no more
bytes than it needs; there are none for surrogates and for what lies past the last code point.
-/
inductive Sequence (n : Nat) : List UInt8 → Prop
  | one {a : UInt8} (value : n = a.toNat) (small : n < 0x80) : Sequence n [a]
  | two {a b : UInt8} (first : 0xC0 ≤ a.toNat ∧ a.toNat < 0xE0) (second : Continues b)
      (value : n = (a.toNat - 0xC0) * 64 + (b.toNat - 0x80)) (shortest : 0x80 ≤ n) :
      Sequence n [a, b]
  | three {a b c : UInt8} (first : 0xE0 ≤ a.toNat ∧ a.toNat < 0xF0) (second : Continues b)
      (third : Continues c)
      (value : n = ((a.toNat - 0xE0) * 64 + (b.toNat - 0x80)) * 64 + (c.toNat - 0x80))
      (shortest : 0x800 ≤ n) (noSurrogate : n < 0xD800 ∨ 0xDFFF < n) : Sequence n [a, b, c]
  | four {a b c d : UInt8} (first : 0xF0 ≤ a.toNat ∧ a.toNat < 0xF8) (second : Continues b)
      (third : Continues c) (fourth : Continues d)
      (value : n = (((a.toNat - 0xF0) * 64 + (b.toNat - 0x80)) * 64 + (c.toNat - 0x80)) * 64 +
        (d.toNat - 0x80))
      (shortest : 0x10000 ≤ n) (last : n ≤ 0x10FFFF) : Sequence n [a, b, c, d]

/-- Bytes that are the sequences of code points, one behind the other. -/
inductive Spelled : List Nat → List UInt8 → Prop
  | nil : Spelled [] []
  | cons {n : Nat} {points : List Nat} {bytes rest : List UInt8} (first : Sequence n bytes)
      (others : Spelled points rest) : Spelled (n :: points) (bytes ++ rest)

def WellFormed (bytes : List UInt8) : Prop := ∃ points, Spelled points bytes

section Sequence

variable {n : Nat} {bytes : List UInt8}

private theorem Sequence.toNat_ofNat (spelled : Sequence n bytes) : (Char.ofNat n).toNat = n := by
  have valid : n.isValidChar := by
    cases spelled with
    | one value small => exact .inl (by omega)
    | two first second value shortest =>
      simp only [Continues] at second
      exact .inl (by omega)
    | three first second third value shortest noSurrogate =>
      simp only [Continues] at second third
      rcases noSurrogate with below | above
      · exact .inl below
      · exact .inr ⟨above, by omega⟩
    | four first second third fourth value shortest last => exact .inr ⟨by omega, by omega⟩
  rw [Char.ofNat, dif_pos valid]
  rfl

private theorem eq_ofNat {b : UInt8} {k : Nat} (value : b.toNat = k) : b = UInt8.ofNat k := by
  rw [← value, UInt8.ofNat_toNat]

private theorem Sequence.eq_encodeChar {c : Char} (spelled : Sequence c.toNat bytes) :
    bytes = encodeChar c := by
  rw [encodeChar]
  generalize c.toNat = n at spelled
  cases spelled with
  | one value small => rw [if_pos small, ← eq_ofNat value.symm]
  | @two a b first second value shortest =>
    simp only [Continues] at second
    have high : a = UInt8.ofNat (0xC0 + n / 64) := eq_ofNat (by omega)
    have low : b = UInt8.ofNat (0x80 + n % 64) := eq_ofNat (by omega)
    rw [if_neg (by omega), if_pos (by omega), high, low]
  | @three a b c first second third value shortest noSurrogate =>
    simp only [Continues] at second third
    have high : a = UInt8.ofNat (0xE0 + n / 4096) := eq_ofNat (by omega)
    have middle : b = UInt8.ofNat (0x80 + n / 64 % 64) := eq_ofNat (by omega)
    have low : c = UInt8.ofNat (0x80 + n % 64) := eq_ofNat (by omega)
    rw [if_neg (by omega), if_neg (by omega), if_pos (by omega), high, middle, low]
  | @four a b c d first second third fourth value shortest last =>
    simp only [Continues] at second third fourth
    have high : a = UInt8.ofNat (0xF0 + n / 262144) := eq_ofNat (by omega)
    have upper : b = UInt8.ofNat (0x80 + n / 4096 % 64) := eq_ofNat (by omega)
    have lower : c = UInt8.ofNat (0x80 + n / 64 % 64) := eq_ofNat (by omega)
    have low : d = UInt8.ofNat (0x80 + n % 64) := eq_ofNat (by omega)
    rw [if_neg (by omega), if_neg (by omega), if_neg (by omega), high, upper, lower, low]

end Sequence

section Reading

variable {b low high : UInt8} {bits count n : Nat} {bytes after : List UInt8}

private theorem lead?_cases {lead : Lead} (announced : lead? b = some lead) :
    (b.toNat < 0x80 ∧ lead = ⟨0, b.toNat, 0x80, 0xBF⟩) ∨
    (0xC2 ≤ b.toNat ∧ b.toNat < 0xE0 ∧ lead = ⟨1, b.toNat - 0xC0, 0x80, 0xBF⟩) ∨
    (0xE0 ≤ b.toNat ∧ b.toNat < 0xF0 ∧ lead = ⟨2, b.toNat - 0xE0,
      if b.toNat = 0xE0 then 0xA0 else 0x80, if b.toNat = 0xED then 0x9F else 0xBF⟩) ∨
    (0xF0 ≤ b.toNat ∧ b.toNat < 0xF5 ∧ lead = ⟨3, b.toNat - 0xF0,
      if b.toNat = 0xF0 then 0x90 else 0x80, if b.toNat = 0xF4 then 0x8F else 0xBF⟩) := by
  simp only [lead?] at announced
  split at announced
  · next one => exact .inl ⟨one, (Option.some.inj announced).symm⟩
  · split at announced
    · contradiction
    · split at announced
      · next _ low two =>
        exact .inr (.inl ⟨by omega, two, (Option.some.inj announced).symm⟩)
      · split at announced
        · next _ _ low three =>
          exact .inr (.inr (.inl ⟨by omega, three, (Option.some.inj announced).symm⟩))
        · split at announced
          · next _ _ _ low four =>
            exact .inr (.inr (.inr ⟨by omega, four, (Option.some.inj announced).symm⟩))
          · contradiction

private theorem of_following_zero (read : following low high bits 0 bytes = .ok (n, after)) :
    n = bits ∧ after = bytes := by
  rw [following, Except.ok.injEq, Prod.mk.injEq] at read
  exact ⟨read.1.symm, read.2.symm⟩

private theorem of_following_succ
    (read : following low high bits (count + 1) bytes = .ok (n, after)) :
    ∃ next rest, bytes = next :: rest ∧ low.toNat ≤ next.toNat ∧ next.toNat ≤ high.toNat ∧
      following 0x80 0xBF (bits * 64 + (next.toNat - 0x80)) count rest = .ok (n, after) := by
  cases bytes with
  | nil => contradiction
  | cons next rest =>
    refine ⟨next, rest, rfl, ?_⟩
    rw [following] at read
    split at read
    · next within =>
      rw [UInt8.le_iff_toNat_le, UInt8.le_iff_toNat_le] at within
      refine ⟨within.1, within.2, ?_⟩
      split at read
      · next result found =>
        cases read
        exact found
      · contradiction
    · contradiction

private theorem exists_sequence_of_character {c : Char}
    (read : character b bytes = .ok (c, after)) :
    ∃ front, b :: bytes = front ++ after ∧ Sequence c.toNat front := by
  have bounds : (0x80 : UInt8).toNat = 0x80 ∧ (0x8F : UInt8).toNat = 0x8F ∧
      (0x90 : UInt8).toNat = 0x90 ∧ (0x9F : UInt8).toNat = 0x9F ∧ (0xA0 : UInt8).toNat = 0xA0 ∧
      (0xBF : UInt8).toNat = 0xBF := by decide
  suffices spelled : ∃ n front, c = Char.ofNat n ∧ b :: bytes = front ++ after ∧
      Sequence n front by
    obtain ⟨n, front, rfl, split, spelled⟩ := spelled
    refine ⟨front, split, ?_⟩
    rw [spelled.toNat_ofNat]
    exact spelled
  rw [character] at read
  split at read
  · contradiction
  next lead announced =>
  split at read
  case h_2 => contradiction
  next n rest found =>
  obtain ⟨rfl, rfl⟩ := Prod.mk.inj (Except.ok.inj read)
  -- One case for each number of bytes that follow; the bounds of the second byte are what keeps
  -- longer forms, surrogates and numbers past the last code point out.
  obtain ⟨one, rfl⟩ | ⟨least, most, rfl⟩ | ⟨least, most, rfl⟩ | ⟨least, most, rfl⟩ :=
    lead?_cases announced
  all_goals dsimp only at found
  · obtain ⟨value, rfl⟩ := of_following_zero found
    exact ⟨n, [b], rfl, rfl, .one value (by omega)⟩
  · obtain ⟨x, rest, rfl, lowX, highX, found⟩ := of_following_succ found
    obtain ⟨value, rfl⟩ := of_following_zero found
    have second : Continues x := ⟨by omega, by omega⟩
    exact ⟨n, [b, x], rfl, rfl, .two ⟨by omega, most⟩ second value (by omega)⟩
  · obtain ⟨x, rest, rfl, lowX, highX, found⟩ := of_following_succ found
    obtain ⟨y, rest, rfl, lowY, highY, found⟩ := of_following_succ found
    obtain ⟨value, rfl⟩ := of_following_zero found
    have bound : 0x80 ≤ x.toNat ∧ x.toNat ≤ 0xBF ∧ (b.toNat = 0xE0 → 0xA0 ≤ x.toNat) ∧
        (b.toNat = 0xED → x.toNat ≤ 0x9F) := by
      split at lowX <;> split at highX <;> omega
    obtain ⟨least', most', overlong, surrogate⟩ := bound
    have third : Continues y := ⟨by omega, by omega⟩
    exact ⟨n, [b, x, y], rfl, rfl,
      .three ⟨least, most⟩ ⟨least', most'⟩ third value (by omega) (by omega)⟩
  · obtain ⟨x, rest, rfl, lowX, highX, found⟩ := of_following_succ found
    obtain ⟨y, rest, rfl, lowY, highY, found⟩ := of_following_succ found
    obtain ⟨z, rest, rfl, lowZ, highZ, found⟩ := of_following_succ found
    obtain ⟨value, rfl⟩ := of_following_zero found
    have bound : 0x80 ≤ x.toNat ∧ x.toNat ≤ 0xBF ∧ (b.toNat = 0xF0 → 0x90 ≤ x.toNat) ∧
        (b.toNat = 0xF4 → x.toNat ≤ 0x8F) := by
      split at lowX <;> split at highX <;> omega
    obtain ⟨least', most', overlong, beyond⟩ := bound
    have third : Continues y := ⟨by omega, by omega⟩
    have fourth : Continues z := ⟨by omega, by omega⟩
    exact ⟨n, [b, x, y, z], rfl, rfl,
      .four ⟨least, by omega⟩ ⟨least', most'⟩ third fourth value (by omega) (by omega)⟩

private theorem sequence_encodeChar (c : Char) : Sequence c.toNat (encodeChar c) := by
  obtain ⟨b, bytes, split, read⟩ := character_encodeChar c []
  obtain ⟨front, same, spelled⟩ := exists_sequence_of_character read
  rw [List.append_nil] at split same
  rw [split, same]
  exact spelled

private theorem eq_encode_of_readFrom {position : Nat} {text : List Char}
    (read : readFrom position bytes = (text, none)) : bytes = encode text := by
  induction same : bytes.length using Nat.strongRecOn generalizing position bytes text with
  | ind size ih =>
    cases bytes with
    | nil =>
      rw [readFrom] at read
      obtain ⟨rfl, -⟩ := Prod.mk.inj read
      rfl
    | cons b bytes =>
      cases found : character b bytes with
      | error fault =>
        rw [readFrom] at read
        split at read
        · exact absurd (Prod.mk.inj read).2 (Option.some_ne_none _)
        · next found' =>
          rw [found] at found'
          contradiction
      | ok result =>
        obtain ⟨c, after⟩ := result
        rw [readFrom_of_character found] at read
        obtain ⟨rfl, complete⟩ := Prod.mk.inj read
        have shorter : after.length < size := by
          have le := length_character found
          rw [← same, List.length_cons]
          omega
        obtain ⟨front, split, spelled⟩ := exists_sequence_of_character found
        have others := ih after.length shorter (Prod.ext rfl complete) rfl
        rw [spelled.eq_encodeChar] at split
        exact split.trans (congrArg (encodeChar c ++ ·) others)

theorem decode_eq_ok_iff {text : List Char} : decode bytes = .ok text ↔ bytes = encode text := by
  constructor
  · intro read
    rw [decode] at read
    split at read
    · next found =>
      cases read
      exact eq_encode_of_readFrom found
    · contradiction
  · rintro rfl
    exact decode_encode text

end Reading

section Spelled

variable {points : List Nat} {bytes : List UInt8}

theorem spelled_encode (text : List Char) : Spelled (text.map Char.toNat) (encode text) := by
  induction text with
  | nil => exact .nil
  | cons c text ih => exact .cons (sequence_encodeChar c) ih

theorem Spelled.eq_encode {text : List Char} (spelled : Spelled (text.map Char.toNat) bytes) :
    bytes = encode text := by
  induction text generalizing bytes with
  | nil =>
    cases spelled
    rfl
  | cons c text ih =>
    cases spelled with
    | cons first others =>
      rw [first.eq_encodeChar, ih others]
      rfl

private theorem Spelled.map_toNat_ofNat (spelled : Spelled points bytes) :
    (points.map Char.ofNat).map Char.toNat = points := by
  induction spelled with
  | nil => rfl
  | cons first others ih => rw [List.map_cons, List.map_cons, first.toNat_ofNat, ih]

/-- What is read are the code points that the bytes spell. -/
theorem decode_eq_ok_iff_spelled {text : List Char} :
    decode bytes = .ok text ↔ Spelled (text.map Char.toNat) bytes := by
  rw [decode_eq_ok_iff]
  constructor
  · rintro rfl
    exact spelled_encode text
  · exact Spelled.eq_encode

theorem Spelled.decode_eq (spelled : Spelled points bytes) :
    decode bytes = .ok (points.map Char.ofNat) := by
  rw [decode_eq_ok_iff_spelled, spelled.map_toNat_ofNat]
  exact spelled

theorem wellFormed_iff : WellFormed bytes ↔ ∃ text, decode bytes = .ok text := by
  constructor
  · rintro ⟨points, spelled⟩
    exact ⟨_, spelled.decode_eq⟩
  · rintro ⟨text, read⟩
    exact ⟨_, decode_eq_ok_iff_spelled.mp read⟩

end Spelled

section Shape

variable {n : Nat} {points : List Nat} {bytes : List UInt8}

private theorem Sequence.shape (spelled : Sequence n bytes) :
    ∃ first others, bytes = first :: others ∧ ¬ Continues first ∧ (∀ b ∈ others, Continues b) ∧
      (others = [] ∧ first.toNat = n ∧ n < 0x80 ∨ 0x80 ≤ n ∧ 0x80 ≤ first.toNat) := by
  cases spelled with
  | one value small =>
    refine ⟨_, [], rfl, ?_, by simp, .inl ⟨rfl, value.symm, small⟩⟩
    rintro ⟨low, -⟩
    omega
  | two first second value shortest =>
    refine ⟨_, _, rfl, ?_, by simpa using second, .inr ⟨shortest, by omega⟩⟩
    rintro ⟨-, high⟩
    omega
  | three first second third value shortest noSurrogate =>
    refine ⟨_, _, rfl, ?_, by simpa using ⟨second, third⟩, .inr ⟨by omega, by omega⟩⟩
    rintro ⟨-, high⟩
    omega
  | four first second third fourth value shortest last =>
    refine ⟨_, _, rfl, ?_, by simpa using ⟨second, third, fourth⟩, .inr ⟨by omega, by omega⟩⟩
    rintro ⟨-, high⟩
    omega

theorem Spelled.countP_not_continues (spelled : Spelled points bytes) :
    bytes.countP (¬ Continues ·) = points.length := by
  induction spelled with
  | nil => rfl
  | @cons n points bytes rest spelled others ih =>
    obtain ⟨first, tail, rfl, begins, continues, -⟩ := spelled.shape
    have none : tail.countP (¬ Continues ·) = 0 := by
      rw [List.countP_eq_zero]
      intro b among
      simpa using continues b among
    rw [List.countP_append, List.countP_cons, none, ih, if_pos (by simpa using begins),
      List.length_cons]
    omega

theorem Spelled.map_filter_lt (spelled : Spelled points bytes) :
    (bytes.filter (·.toNat < 0x80)).map UInt8.toNat = points.filter (· < 0x80) := by
  induction spelled with
  | nil => rfl
  | @cons n points bytes rest spelled others ih =>
    obtain ⟨first, tail, rfl, -, continues, kind⟩ := spelled.shape
    have none : tail.filter (·.toNat < 0x80) = [] := by
      rw [List.filter_eq_nil_iff]
      intro b among
      have low := (continues b among).1
      simpa using low
    rw [List.filter_append, List.map_append, ih, List.filter_cons, List.filter_cons, none]
    obtain ⟨-, same, small⟩ | ⟨large, large'⟩ := kind
    · rw [if_pos (by simpa [same] using small), if_pos (by simpa using small)]
      simp [same]
    · rw [if_neg (by simpa using large'), if_neg (by simpa using large)]
      rfl

end Shape

end TapeMachine.Text.Utf8
