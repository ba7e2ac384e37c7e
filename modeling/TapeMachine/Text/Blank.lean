set_option autoImplicit false

namespace TapeMachine.Text

/-- The white space of ASCII: tab, the line breaks and the plain blank. -/
def isAsciiBlank (c : Char) : Bool := (0x09 ≤ c.toNat ∧ c.toNat ≤ 0x0D) ∨ c.toNat = 0x20

def isBlank (c : Char) : Bool :=
  isAsciiBlank c || c.toNat = 0x85 || c.toNat = 0xA0 || c.toNat = 0x1680 ||
    (0x2000 ≤ c.toNat && c.toNat ≤ 0x200A) || c.toNat = 0x2028 || c.toNat = 0x2029 ||
    c.toNat = 0x202F || c.toNat = 0x205F || c.toNat = 0x3000

end TapeMachine.Text
