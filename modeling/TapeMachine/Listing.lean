import TapeMachine.Opcode
import TapeMachine.Text.Pad

set_option autoImplicit false

namespace TapeMachine.Listing

/-- The line of one byte, such as `3 - 07 - LOOP_START ([)`. -/
def line (index : Nat) (byte : UInt8) : String :=
  toString index ++ " - " ++ Text.upperHex 2 byte.toNat ++ " - " ++ (Opcode.ofByte byte).mnemonic

/-- The lines of a binary program whose first byte has the given index. -/
def linesFrom : (index : Nat) → List UInt8 → List String
  | _, [] => []
  | index, byte :: rest => line index byte :: linesFrom (index + 1) rest

/-- The listing of a binary program; no line break follows the last line. -/
def render (code : List UInt8) : String := "\n".intercalate (linesFrom 0 code)

theorem length_linesFrom (index : Nat) (code : List UInt8) :
    (linesFrom index code).length = code.length := by
  induction code generalizing index with
  | nil => rfl
  | cons byte rest ih => simp [linesFrom, ih]

end TapeMachine.Listing
