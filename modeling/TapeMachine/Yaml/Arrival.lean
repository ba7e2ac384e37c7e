import TapeMachine.Text.Decoder
import TapeMachine.Yaml.Fault

set_option autoImplicit false

namespace TapeMachine.Yaml

/-- The text that can be had, and the fault that lies behind it. -/
structure Arrival where
  text : List Char
  fault? : Option Fault

namespace Arrival

def isAllowed (c : Char) : Bool :=
  let n := c.toNat
  c = '\t' || c = '\n' || c = '\r' || n = 0x85 || (0x20 ≤ n && n ≤ 0x7E) ||
    (0xA0 ≤ n && n ≤ 0xFFFD) || 0x10000 ≤ n

def ofText (text : List Char) : Arrival :=
  if text.all isAllowed then ⟨text, none⟩ else ⟨[], some .malformed⟩

def andThen (piece : List Char) (rest : Arrival) : Arrival :=
  if piece.all isAllowed then ⟨piece ++ rest.text, rest.fault?⟩ else ⟨[], some .malformed⟩

def pieceSize : Nat := 4096

/-- The pieces from here on, as far as they can be had; an empty piece ends the text. -/
def rest : (fuel : Nat) → Text.Decoder → Arrival
  | 0, _ => ⟨[], none⟩
  | fuel + 1, d =>
    match d.take pieceSize with
    | .error fault => ⟨[], some (.encoding fault)⟩
    | .ok ([], _) => ⟨[], none⟩
    | .ok (piece, next) => andThen piece (rest fuel next)

/-- The text of some bytes; the first two pieces are looked at together. -/
def ofBytes (bytes : List UInt8) : Arrival :=
  let firstTwo := do
    let (first, d) ← (Text.Decoder.start bytes).take pieceSize
    let (second, d) ← d.take pieceSize
    return (first ++ second, d)
  match firstTwo with
  | .error fault => ⟨[], some (.encoding fault)⟩
  | .ok (piece, d) => andThen piece (rest (bytes.length + 1) d)

end Arrival

end TapeMachine.Yaml
