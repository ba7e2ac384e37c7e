import TapeMachine.Text.Pad

set_option autoImplicit false

namespace TapeMachine.Text.Utf8

/-- Why some bytes cannot be read. -/
inductive Reason
  | badStart
  | badContinuation
  | cutShort
  deriving DecidableEq

/-- Bytes that cannot be read: where the first one stands, its value, and how many there are. -/
structure Fault where
  position : Nat
  first : UInt8
  count : Nat
  reason : Reason
  deriving DecidableEq

def Reason.message : Reason → String
  | badStart => "invalid start byte"
  | badContinuation => "invalid continuation byte"
  | cutShort => "unexpected end of data"

/-- A fault in words: one byte is shown, of several the range is given. -/
def Fault.message (f : Fault) : String :=
  if f.count = 1 then
    "'utf-8' codec can't decode byte 0x" ++ lowerHex 2 f.first.toNat ++ " in position " ++
      toString f.position ++ ": " ++ f.reason.message
  else
    "'utf-8' codec can't decode bytes in position " ++ toString f.position ++ "-" ++
      toString (f.position + f.count - 1) ++ ": " ++ f.reason.message

/--
What a first byte announces: how many bytes follow, the bits it contributes, and between which
bounds the second byte lies.
-/
structure Lead where
  following : Nat
  bits : Nat
  low : UInt8
  high : UInt8

/-- The announcement of a first byte; none for a byte that cannot be first. -/
def lead? (b : UInt8) : Option Lead :=
  let n := b.toNat
  if n < 0x80 then some ⟨0, n, 0x80, 0xBF⟩
  else if n < 0xC2 then none
  else if n < 0xE0 then some ⟨1, n - 0xC0, 0x80, 0xBF⟩
  else if n < 0xF0 then
    some ⟨2, n - 0xE0, if n = 0xE0 then 0xA0 else 0x80, if n = 0xED then 0x9F else 0xBF⟩
  else if n < 0xF5 then
    some ⟨3, n - 0xF0, if n = 0xF0 then 0x90 else 0x80, if n = 0xF4 then 0x8F else 0xBF⟩
  else none

/--
Collect the bits of the bytes that follow a first byte, the next of which has to lie between `low`
and `high`. Fails with the number of bytes that were good.
-/
def following (low high : UInt8) (bits : Nat) :
    (count : Nat) → List UInt8 → Except (Nat × Reason) (Nat × List UInt8)
  | 0, rest => .ok (bits, rest)
  | _ + 1, [] => .error (0, .cutShort)
  | count + 1, b :: rest =>
    if low ≤ b ∧ b ≤ high then
      match following 0x80 0xBF (bits * 64 + (b.toNat - 0x80)) count rest with
      | .ok result => .ok result
      | .error (good, reason) => .error (good + 1, reason)
    else .error (0, .badContinuation)

/-- How many bytes the character that begins with a given byte takes. -/
def width (b : UInt8) : Nat :=
  match lead? b with
  | none => 1
  | some lead => lead.following + 1

/-- Read one character; fails with the number of bytes at fault. -/
def character (b : UInt8) (rest : List UInt8) : Except (Nat × Reason) (Char × List UInt8) :=
  match lead? b with
  | none => .error (1, .badStart)
  | some lead =>
    match following lead.low lead.high lead.bits lead.following rest with
    | .ok (bits, after) => .ok (Char.ofNat bits, after)
    | .error (good, reason) => .error (good + 1, reason)

theorem length_following {low high : UInt8} {bits count : Nat} {bytes rest : List UInt8} {n : Nat}
    (h : following low high bits count bytes = .ok (n, rest)) :
    rest.length + count = bytes.length := by
  induction count generalizing low high bits bytes with
  | zero =>
    simp only [following, Except.ok.injEq, Prod.mk.injEq] at h
    simp [h.2]
  | succ count ih =>
    cases bytes with
    | nil => simp [following] at h
    | cons b tail =>
      simp only [following] at h
      split at h
      · split at h
        · rename_i result hresult
          obtain rfl : result = (n, rest) := by simpa using h
          have := ih hresult
          simp only [List.length_cons]
          omega
        · simp at h
      · simp at h

theorem length_character {b : UInt8} {bytes rest : List UInt8} {c : Char}
    (h : character b bytes = .ok (c, rest)) : rest.length ≤ bytes.length := by
  unfold character at h
  split at h
  · simp at h
  · split at h
    · rename_i hfollowing
      simp only [Except.ok.injEq, Prod.mk.injEq] at h
      have := length_following hfollowing
      rw [← h.2]
      omega
    · simp at h

/--
Read as many characters as can be read; the first byte stands at `position`. What cannot be read is
returned with its fault.
-/
def readFrom (position : Nat) (bytes : List UInt8) : List Char × Option (Fault × List UInt8) :=
  match bytes with
  | [] => ([], none)
  | b :: rest =>
    match _h : character b rest with
    | .error (count, reason) => ([], some (⟨position, b, count, reason⟩, bytes))
    | .ok (c, after) =>
      let (cs, fault) := readFrom (position + width b) after
      (c :: cs, fault)
termination_by bytes.length
decreasing_by
  have := length_character ‹character b rest = .ok (c, after)›
  simp only [List.length_cons]
  omega

def decode (bytes : List UInt8) : Except Fault (List Char) :=
  match readFrom 0 bytes with
  | (cs, none) => .ok cs
  | (_, some (fault, _)) => .error fault

def encodeChar (c : Char) : List UInt8 :=
  let n := c.toNat
  if n < 0x80 then [UInt8.ofNat n]
  else if n < 0x800 then [UInt8.ofNat (0xC0 + n / 64), UInt8.ofNat (0x80 + n % 64)]
  else if n < 0x10000 then
    [UInt8.ofNat (0xE0 + n / 4096), UInt8.ofNat (0x80 + n / 64 % 64), UInt8.ofNat (0x80 + n % 64)]
  else
    [UInt8.ofNat (0xF0 + n / 262144), UInt8.ofNat (0x80 + n / 4096 % 64),
      UInt8.ofNat (0x80 + n / 64 % 64), UInt8.ofNat (0x80 + n % 64)]

def encode (text : List Char) : List UInt8 := text.flatMap encodeChar

def ofString (text : String) : List UInt8 := encode text.toList

end TapeMachine.Text.Utf8
