import TapeMachine.Machine.Loading
import TapeMachine.Machine.Trace

/-!
The operations on a machine: what can be asked of it from outside, in any order and at any moment.
Each one gives a reply and the machine after it. An operation that is refused changes nothing,
except that a run resets before it looks at its limit.
-/

set_option autoImplicit false

namespace TapeMachine

/-- What can be asked of a machine. -/
inductive Operation
  | loadTokens (tokens : Value)
  | loadCodes (codes : Value)
  | loadInput (text : Value)
  | reset
  | fetch
  | execute (code : Int)
  | step
  | run (limit : Value)
  | store (v : Value)
  | moveLeft
  | moveRight
  | resetTape

/-- What an operation replies. -/
inductive Reply
  | done
  | refused (fault : Value.Fault)
  /-- The instruction that came next; none past the stop mark. -/
  | instruction (op? : Option Opcode)
  | ended (outcome : Outcome)
  /-- The run would go on for ever. -/
  | endless
  deriving DecidableEq

namespace Machine

/-- The machine that a load makes of another one, which stays if the load is refused. -/
def accept (loaded : Except Value.Fault Machine) (m : Machine) : Reply × Machine :=
  match loaded with
  | .ok next => (.done, next)
  | .error fault => (.refused fault, m)

def runUnder (limit : Value) (m : Machine) : Reply × Machine :=
  match StepLimit.ofValue limit with
  | .error fault => (.refused fault, m.reset)
  | .ok limit =>
    match m.run limit.budget with
    | some (outcome, last) => (.ended outcome, last)
    | none => (.endless, m)

end Machine

namespace Operation

def apply (operation : Operation) (m : Machine) : Reply × Machine :=
  match operation with
  | loadTokens tokens => m.accept (m.loadTokens tokens)
  | loadCodes codes => m.accept (m.loadCodes codes)
  | loadInput text => m.accept (m.loadInput text)
  | reset => (.done, m.reset)
  | fetch =>
    match m.current? with
    | some op => (.instruction (some op), m.passed)
    | none => (.instruction none, m)
  | execute code => (.done, m.executeCode code)
  | step =>
    match m.current? with
    | some op => (.instruction (some op), m.perform op)
    | none => (.instruction none, m)
  | run limit => m.runUnder limit
  | store v => m.accept (m.storeValue v)
  | moveLeft => (.done, m.mapTape Tape.moveLeft)
  | moveRight => (.done, m.mapTape Tape.moveRight)
  | resetTape => (.done, m.mapTape Tape.reset)

/-- What an operation reports, given the machine before it, its reply and the machine after it. -/
def events (lenient : Bool) (operation : Operation) (before : Machine) (result : Reply × Machine) :
    List Event :=
  match operation, result with
  | loadTokens _, (.done, after) => after.eventsOfLoad
  | loadCodes _, (.done, after) => after.eventsOfLoad
  | loadInput _, (.done, after) => after.eventsOfFeed
  | execute code, _ => before.eventsOfCode code
  | step, _ => before.eventsOfStep lenient
  | run limit, (.ended outcome, after) =>
    match StepLimit.ofValue limit with
    | .ok limit => before.eventsOfRun lenient limit.shown (outcome, after)
    | .error _ => []
  | _, _ => []

theorem apply_fetch (m : Machine) :
    fetch.apply m = match m.fetch with
      | some (op, next) => (.instruction (some op), next)
      | none => (.instruction none, m) := by
  cases h : m.current? <;> simp [apply, Machine.fetch, h]

theorem apply_step (m : Machine) :
    step.apply m = match m.step with
      | some (op, next) => (.instruction (some op), next)
      | none => (.instruction none, m) := by
  cases h : m.current? <;> simp [apply, Machine.step, h]

end Operation

end TapeMachine
