import TapeMachine.Machine
import TapeMachine.Text.Pad

set_option autoImplicit false

namespace TapeMachine.Dump

/-- The line of one cell, with a mark at the cell under the pointer. -/
def cellLine (pointer index : Nat) (cell : UInt8) : String :=
  Text.zeroFilled 4 index ++ ": " ++ Text.upperHex 2 cell.toNat ++ "  (" ++ toString cell.toNat ++
    ")" ++ (if index = pointer then "  <- ptr" else "") ++ "\n"

/-- The lines of cells, the first of which has the given index. -/
def cellLines (pointer : Nat) : (index : Nat) → List UInt8 → List String
  | _, [] => []
  | index, cell :: rest => cellLine pointer index cell :: cellLines pointer (index + 1) rest

def registers (m : Machine) : String :=
  "cells: " ++ toString m.tape.capacity ++ "  pointer: " ++ toString m.tape.pointer ++ "  pc: " ++
    toString m.pc ++ "  steps: " ++ toString m.steps ++ "\n"

def outputLine (m : Machine) : String :=
  " ".intercalate (m.output.toList.map fun b => toString b.toNat) ++ "\n"

def render (m : Machine) : String :=
  "=== MEMORY DUMP ===\n" ++ registers m ++ "\n" ++
    String.join (cellLines m.tape.pointer 0 m.tape.cells.toList) ++
    "\n=== OUTPUT ===\n" ++ outputLine m ++ "\n=== END DUMP ===\n"

end TapeMachine.Dump
