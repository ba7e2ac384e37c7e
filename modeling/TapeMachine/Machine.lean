import TapeMachine.Brackets
import TapeMachine.Tape

/-!
The machine: loaded code, a program counter, a stack of the loops entered, a tape, pending input
and collected output. The stop mark stands right after the loaded code, so that a program is never
empty and always ends with it. No instruction fails.
-/

set_option autoImplicit false

namespace TapeMachine

/-- The state of the machine. -/
structure Machine where
  /-- The loaded instructions, without the stop mark after them. -/
  code : Array Opcode
  pc : Nat
  /-- Where the bodies of the entered loops begin, the innermost loop first. -/
  loops : List Nat
  tape : Tape
  input : List UInt8
  output : Array UInt8
  /-- Instructions executed since the last reset. -/
  steps : Nat
  halted : Bool
  /-- Loop ends executed while no loop was entered, since the last reset. -/
  unmatched : Nat
  deriving DecidableEq

namespace Machine

def new (tape : Tape) : Machine where
  code := #[]
  pc := 0
  loops := []
  tape := tape.reset
  input := []
  output := #[]
  steps := 0
  halted := false
  unmatched := 0

def program (m : Machine) : Array Opcode := m.code.push .halt

def length (m : Machine) : Nat := m.code.size + 1

/-- The instruction at a position; none past the stop mark. -/
def opcodeAt? (m : Machine) (i : Nat) : Option Opcode :=
  if h : i < m.code.size then some m.code[i]
  else if i = m.code.size then some .halt
  else none

/-- Give registers, tape, loops and output their initial values; pending input stays. -/
def reset (m : Machine) : Machine where
  code := m.code
  pc := 0
  loops := []
  tape := m.tape.reset
  input := m.input
  output := #[]
  steps := 0
  halted := false
  unmatched := 0

def load (ops : List Opcode) (m : Machine) : Machine := { m with code := ops.toArray }.reset

def feed (bytes : List UInt8) (m : Machine) : Machine := { m with input := bytes }.reset

/-- Go past the end of the loop whose body begins at the program counter, or to the stop mark. -/
def skipLoop (m : Machine) : Machine :=
  match Brackets.closing? m.code m.pc 0 with
  | some e => { m with pc := e + 1 }
  | none => { m with pc := m.code.size }

def mapTape (f : Tape → Tape) : Machine → Machine
  | ⟨code, pc, loops, tape, input, output, steps, halted, unmatched⟩ =>
    ⟨code, pc, loops, f tape, input, output, steps, halted, unmatched⟩

def emit : Machine → Machine
  | ⟨code, pc, loops, tape, input, output, steps, halted, unmatched⟩ =>
    let b := tape.read
    ⟨code, pc, loops, tape, input, output.push b, steps, halted, unmatched⟩

/-- The effect of one instruction once the program counter stands behind it. -/
def execute (op : Opcode) (m : Machine) : Machine :=
  match op with
  | .nop => m
  | .inc => m.mapTape (Tape.modify (· + 1))
  | .dec => m.mapTape (Tape.modify (· - 1))
  | .ptrLeft => m.mapTape Tape.moveLeft
  | .ptrRight => m.mapTape Tape.moveRight
  | .read =>
    match m.input with
    | [] => m.mapTape (Tape.write 0)
    | b :: rest => { m with input := rest }.mapTape (Tape.write b)
  | .write => m.emit
  | .loopStart => if m.tape.read = 0 then m.skipLoop else { m with loops := m.pc :: m.loops }
  | .loopEnd =>
    match m.loops with
    | [] => { m with unmatched := m.unmatched + 1 }
    | body :: outer => if m.tape.read = 0 then { m with loops := outer } else { m with pc := body }
  | .halt => { m with halted := true, pc := m.length }

/-- The instruction that comes next; none past the stop mark. -/
def current? (m : Machine) : Option Opcode := m.opcodeAt? m.pc

/-- Move the program counter behind the instruction that comes next. -/
def passed (m : Machine) : Machine := { m with pc := m.pc + 1 }

/-- The instruction that comes next, with the program counter moved behind it. -/
def fetch (m : Machine) : Option (Opcode × Machine) := m.current?.map fun op => (op, m.passed)

def perform (op : Opcode) (m : Machine) : Machine :=
  let after := m.passed.execute op
  { after with steps := after.steps + 1 }

/-- Fetch and execute one instruction; nothing happens past the stop mark. -/
def step (m : Machine) : Option (Opcode × Machine) := m.current?.map fun op => (op, m.perform op)

/-- The output as text, byte by byte the character of that number. -/
def outputText (m : Machine) : String :=
  String.ofList (m.output.toList.map fun b => Char.ofNat b.toNat)

end Machine

end TapeMachine
