import TapeMachine.Machine

/-!
Runs of the machine: a run resets and then executes until the machine halts or a budget of
instructions is used up. A run without a budget is decided, because a machine that is still
running after `haltingBound` instructions has repeated a configuration.
-/

set_option autoImplicit false

namespace TapeMachine

/-- How a run ended. -/
inductive Outcome
  | halted
  | limit
  deriving DecidableEq

def Outcome.name : Outcome → String
  | .halted => "halted"
  | .limit => "limit"

namespace Machine

def finished (m : Machine) : Bool := m.halted || m.length ≤ m.pc

/-- Execute up to `n` instructions, but none once the machine has halted. -/
def advance : Nat → Machine → Machine
  | 0, m => m
  | n + 1, m =>
    match m.current? with
    | none => m
    | some op =>
      let next := m.perform op
      if next.halted then next else advance n next

/-- Reset, then execute at most `budget` instructions. -/
def runWithin (budget : Nat) (m : Machine) : Outcome × Machine :=
  let last := m.reset.advance budget
  (if last.finished then .halted else .limit, last)

/-- As many instructions as there are configurations of code position, tape and unread input. -/
def haltingBound (m : Machine) : Nat :=
  m.length * m.tape.capacity * Nat.pow 256 m.tape.capacity * (m.input.length + 1)

/-- Execute with budgets that double from round to round until the machine has halted. -/
def settle : (rounds budget : Nat) → Machine → Option Machine
  | 0, _, _ => none
  | rounds + 1, budget, m =>
    let next := m.advance budget
    if next.finished then some next else settle rounds (2 * budget) next

/-- So many rounds that their budgets `1`, `2`, `4`, … together exceed the halting bound. -/
def settlingRounds (m : Machine) : Nat :=
  Nat.log2 m.length + Nat.log2 m.tape.capacity + 8 * m.tape.capacity +
    Nat.log2 (m.input.length + 1) + 3

/-- Reset, then execute until the machine has halted; none if it never does. -/
def runToEnd (m : Machine) : Option Machine := settle m.settlingRounds 1 m.reset

/-- Run with a budget or without one; none if the run never ends. -/
def run (budget : Option Nat) (m : Machine) : Option (Outcome × Machine) :=
  match budget with
  | some n => some (m.runWithin n)
  | none => m.runToEnd.map fun last => (.halted, last)

end Machine

end TapeMachine
