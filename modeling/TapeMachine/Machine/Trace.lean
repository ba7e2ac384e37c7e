import TapeMachine.Machine.Run
import TapeMachine.Text.Pad

/-!
What the debug log tells about a machine: loads, anomalies, executed instructions and the end of a
run. Events are read off the states, so that logging cannot change what is executed.
-/

set_option autoImplicit false

namespace TapeMachine

/-- Something that the debug log reports. -/
inductive Event
  | programLoaded (count : Nat)
  | inputLoaded (count : Nat)
  | inputExhausted
  | loopUnclosed (position : Int)
  | loopEndIgnored (position : Int)
  | halted
  | unknownOpcode (code : Int)
  | stepped (steps pc pointer : Nat) (cell : UInt8) (depth : Nat) (op : Opcode)
  | limitReached (limit : Int) (pc : Nat)
  | notWritten (file cause : String)
  deriving DecidableEq

def Event.message : Event → String
  | programLoaded count => s!"Program loaded: {count} opcodes (+HALT)"
  | inputLoaded count => s!"Input loaded: {count} bytes"
  | inputExhausted => "READ: no input -> 0"
  | loopUnclosed position =>
    s!"LOOP_START at {position} has no matching LOOP_END -> jump to HALT"
  | loopEndIgnored position => s!"LOOP_END at {position} with empty loop stack -> ignored"
  | halted => "HALT encountered"
  | unknownOpcode code => s!"Unhandled opcode: {code}"
  | stepped steps pc pointer cell depth op =>
    "STEP: " ++ Text.column 6 steps ++ " PC: " ++ Text.column 5 pc ++ " PTR: " ++
      Text.column 3 pointer ++ " CELL: " ++ Text.column 3 cell.toNat ++ " DEPTH: " ++
      Text.column 3 depth ++ "\tINSTR: " ++ op.mnemonic
  | limitReached limit pc => s!"Step limit {limit} reached at PC {pc}"
  | notWritten file cause => s!"Failed to write {file}: {cause}"

/--
The line of an event: its level and its text. In a log file the place in the program that reports
the event stands between the two; it is left out here.
-/
def Event.line (e : Event) : String := "DEBUG " ++ e.message

namespace Machine

/-- What executing an instruction reports, the program counter standing behind it. -/
def remarks (op : Opcode) (m : Machine) : List Event :=
  match op with
  | .read => if m.input.isEmpty then [.inputExhausted] else []
  | .loopStart =>
    if m.tape.read = 0 ∧ (Brackets.closing? m.code m.pc 0).isNone then
      [.loopUnclosed ((m.pc : Int) - 1)]
    else []
  | .loopEnd => if m.loops.isEmpty then [.loopEndIgnored ((m.pc : Int) - 1)] else []
  | .halt => [.halted]
  | _ => []

def stepEvent (op : Opcode) (m : Machine) : Event :=
  .stepped m.steps m.pc m.tape.pointer m.tape.read m.loops.length op

/--
What executing an instruction reports, given the machine before and after it; a lenient log leaves
out the line about the instruction itself.
-/
def eventsOf (lenient : Bool) (op : Opcode) (before after : Machine) : List Event :=
  before.passed.remarks op ++ if lenient then [] else [stepEvent op after]

def eventsOfStep (lenient : Bool) (m : Machine) : List Event :=
  match m.step with
  | none => []
  | some (op, next) => eventsOf lenient op m next

/-- What up to `n` steps report, in order. -/
def eventsOfSteps (lenient : Bool) : Nat → Machine → List Event
  | 0, _ => []
  | n + 1, m =>
    match m.current? with
    | none => []
    | some op =>
      let remarks := m.passed.remarks op
      let next := m.perform op
      let own := if lenient then [] else [stepEvent op next]
      remarks ++ (own ++ eventsOfSteps lenient n next)

theorem eventsOfSteps_succ {lenient : Bool} {n : Nat} {m : Machine} {op : Opcode}
    (h : m.current? = some op) :
    eventsOfSteps lenient (n + 1) m =
      eventsOf lenient op m (m.perform op) ++ eventsOfSteps lenient n (m.perform op) := by
  simp [eventsOfSteps, eventsOf, h]

/-- What a run reports: its steps, and the limit if it stopped there. -/
def eventsOfRun (lenient : Bool) (limit : Option Int) (m : Machine) (result : Outcome × Machine) :
    List Event :=
  eventsOfSteps lenient result.2.steps m.reset ++
    match result.1, limit with
    | .limit, some n => [.limitReached n result.2.pc]
    | _, _ => []

/-- Execute the instruction of a code; an unknown code changes nothing. -/
def executeCode (code : Int) (m : Machine) : Machine :=
  match Opcode.ofCode? code with
  | some op => m.execute op
  | none => m

def eventsOfCode (code : Int) (m : Machine) : List Event :=
  match Opcode.ofCode? code with
  | some op => m.remarks op
  | none => [.unknownOpcode code]

def eventsOfLoad (m : Machine) : List Event := [.programLoaded m.code.size]

def eventsOfFeed (m : Machine) : List Event := [.inputLoaded m.input.length]

end Machine

end TapeMachine
