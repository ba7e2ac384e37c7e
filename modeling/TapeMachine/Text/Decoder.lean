import TapeMachine.Text.LineBreak
import TapeMachine.Text.Utf8

/-!
Bytes that become text portion by portion. Bytes at the end of a portion that begin a character wait
for the next one, and so does a carriage return, because a line feed may follow it. What cannot be
read is found when its portion is fetched; its position counts from the first byte at hand.
-/

set_option autoImplicit false

namespace TapeMachine.Text

/-- How far some bytes have become text. -/
structure Decoder where
  /-- The bytes that have not been fetched. -/
  bytes : List UInt8
  /-- Bytes that have been fetched and begin a character. -/
  held : List UInt8
  /-- Whether a carriage return waits for what follows. -/
  carriage : Bool
  /-- Characters that have not been taken. -/
  ready : List Char
  /-- How many bytes the last portion had, and how many characters came of it. -/
  portion : Nat × Nat

namespace Decoder

def start (bytes : List UInt8) : Decoder := ⟨bytes, [], false, [], (0, 0)⟩

def leastPortion : Nat := 8192

/-- How many bytes are fetched for some characters, in proportion to what the last portion gave. -/
def portionFor (wanted : Nat) (d : Decoder) : Nat :=
  max leastPortion (d.portion.1 * wanted / d.portion.2)

/-- Unify line breaks; a carriage return at the end waits unless all has been read. -/
def unify (final carriage : Bool) (characters : List Char) : List Char × Bool :=
  let all := if carriage && (final || !characters.isEmpty) then '\r' :: characters else characters
  if !final && all.getLast? == some '\r' then (unifyBreaks all.dropLast, true)
  else (unifyBreaks all, carriage && !final && characters.isEmpty)

/--
Whether what cannot be read waits for the next portion: a character cut short, and the first two
bytes of a surrogate, which are judged only when something follows them.
-/
def isHeld (fault : Utf8.Fault) : List UInt8 → Bool
  | [first, second] => fault.reason = .cutShort || (first = 0xED && 0xA0 ≤ second && second ≤ 0xBF)
  | _ => fault.reason = .cutShort

/-- Fetch a portion; the empty one behind the last byte ends the text. -/
def fetch (wanted : Nat) (d : Decoder) : Except Utf8.Fault Decoder :=
  let count := d.portionFor wanted
  let portion := d.bytes.take count
  let final := portion.isEmpty
  let read := Utf8.readFrom 0 (d.held ++ portion)
  let decoded := fun (held : List UInt8) =>
    let (characters, carriage) := unify final d.carriage read.1
    Decoder.mk (d.bytes.drop count) held carriage (d.ready ++ characters)
      (portion.length, characters.length)
  match read.2 with
  | none => .ok (decoded [])
  | some (fault, rest) =>
    if isHeld fault rest && !final then .ok (decoded rest) else .error fault

/-- Fetch portions until some number of characters is ready or nothing is left. -/
def fill (wanted : Nat) : (fuel : Nat) → Decoder → Except Utf8.Fault Decoder
  | 0, d => .ok d
  | fuel + 1, d =>
    let count := d.ready.length
    if wanted ≤ count then .ok d
    else do
      let next ← d.fetch (wanted - count)
      if next.portion = (0, 0) then return next else fill wanted fuel next

/--
Take some characters, fewer if the text ends before. Every portion but the last two gives at least
one character, which bounds their number.
-/
def take (wanted : Nat) (d : Decoder) : Except Utf8.Fault (List Char × Decoder) := do
  let filled ← d.fill wanted (wanted + 4)
  return (filled.ready.take wanted, { filled with ready := filled.ready.drop wanted })

end Decoder

end TapeMachine.Text
