set_option autoImplicit false

namespace TapeMachine

/-- The low eight bits of an integer, so that `-1` becomes `255` and `256` becomes `0`. -/
def lowByte (n : Int) : UInt8 := UInt8.ofNat (n % 256).toNat

theorem toNat_lowByte (n : Int) : ((lowByte n).toNat : Int) = n % 256 := by
  have nonneg : 0 ≤ n % 256 := Int.emod_nonneg n (by decide)
  have below : n % 256 < 256 := Int.emod_lt_of_pos n (by decide)
  simp only [lowByte, UInt8.toNat_ofNat']
  omega

theorem lowByte_toNat (b : UInt8) : lowByte (b.toNat : Int) = b := by
  apply UInt8.toNat_inj.1
  have value := toNat_lowByte (b.toNat : Int)
  have below := b.toNat_lt
  omega

end TapeMachine
