import TapeMachine.Opcode

set_option autoImplicit false

namespace TapeMachine.Brackets

/--
The position of the loop end that closes the loop around position `i`, where `depth` loops inside
that loop are open already; none when the code ends first.
-/
def closing? (code : Array Opcode) (i depth : Nat) : Option Nat :=
  if h : i < code.size then
    match code[i] with
    | .loopStart => closing? code (i + 1) (depth + 1)
    | .loopEnd =>
      match depth with
      | 0 => some i
      | inner + 1 => closing? code (i + 1) inner
    | _ => closing? code (i + 1) depth
  else
    none
termination_by code.size - i

end TapeMachine.Brackets
