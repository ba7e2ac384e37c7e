import TapeMachine.Proofs.Failing
import TapeMachine.Proofs.Machine.Move

set_option autoImplicit false

namespace TapeMachine

namespace Operation

/-- Whether an operation loads something or resets. -/
def Restarts : Operation → Prop
  | loadTokens _ => True
  | loadCodes _ => True
  | loadInput _ => True
  | reset => True
  | _ => False

/-- Whether an operation takes instructions only as a whole: fetched and executed. -/
def Whole : Operation → Prop
  | fetch => False
  | execute _ => False
  | _ => True

end Operation

namespace Machine

/-- The machines that a load or a reset, and then any operations in any order lead to. -/
inductive Reachable : Machine → Prop
  | restart {m : Machine} {operation : Operation} (kind : operation.Restarts)
      (accepted : (operation.apply m).1 = .done) : Reachable (operation.apply m).2
  | operate {m : Machine} {operation : Operation} (kind : operation.Whole)
      (before : Reachable m) : Reachable (operation.apply m).2

/-- What an operation can make of a machine. -/
inductive Change (m : Machine) : Machine → Prop
  | none : Change m m
  | restart (code : Array Opcode) (input : List UInt8) :
      Change m { m with code := code, input := input }.reset
  | step : Change m m.next
  | run (n : Nat) : Change m (m.reset.after n)
  | tape (tape : Tape) (same : tape.capacity = m.tape.capacity) :
      Change m { m with tape := tape }

theorem apply_step_eq (m : Machine) :
    Operation.step.apply m = (.instruction m.current?, m.next) := by
  rw [Operation.apply, next, step]
  cases m.current? <;> rfl

theorem accept_induction {P : Machine → Prop} {loaded : Except Value.Fault Machine} {m : Machine}
    (stay : P m) (replace : ∀ next, loaded = .ok next → P next) : P (m.accept loaded).2 := by
  cases loaded with
  | error fault => exact stay
  | ok next => exact replace next rfl

private theorem eq_ok_of_accept {loaded : Except Value.Fault Machine} {m : Machine}
    (accepted : (m.accept loaded).1 = .done) : loaded = .ok (m.accept loaded).2 := by
  cases loaded with
  | error fault => contradiction
  | ok next => rfl

variable {m : Machine}

private theorem change_runUnder (limit : Value) : Change m (m.runUnder limit).2 := by
  rw [runUnder]
  split
  · exact .run 0
  · next stepLimit _ =>
    split
    · next outcome last ran =>
      obtain ⟨n, rfl⟩ := exists_after_of_run ran
      exact .run n
    · exact .none

theorem change_apply {operation : Operation} (kind : operation.Whole) :
    Change m (operation.apply m).2 := by
  cases operation with
  | loadTokens tokens =>
    refine accept_induction .none fun next loaded => ?_
    obtain ⟨ops, -, rfl⟩ := bind_pure_eq_ok_iff.mp loaded
    exact .restart ops.toArray m.input
  | loadCodes codes =>
    refine accept_induction .none fun next loaded => ?_
    obtain ⟨ops, -, rfl⟩ := bind_pure_eq_ok_iff.mp loaded
    exact .restart ops.toArray m.input
  | loadInput text =>
    refine accept_induction .none fun next loaded => ?_
    obtain ⟨bytes, -, rfl⟩ := bind_pure_eq_ok_iff.mp loaded
    exact .restart m.code bytes
  | reset => exact .restart m.code m.input
  | fetch => exact kind.elim
  | execute code => exact kind.elim
  | step =>
    rw [apply_step_eq]
    exact .step
  | run limit => exact change_runUnder limit
  | store v =>
    refine accept_induction .none fun next stored => ?_
    obtain ⟨n, -, rfl⟩ := bind_pure_eq_ok_iff.mp stored
    exact .tape _ (Tape.capacity_write _ _)
  | moveLeft => exact .tape _ (Tape.capacity_moveLeft _)
  | moveRight => exact .tape _ (Tape.capacity_moveRight _)
  | resetTape => exact .tape _ (Tape.capacity_reset _)

theorem exists_reset_of_restarts {operation : Operation} (kind : operation.Restarts)
    (accepted : (operation.apply m).1 = .done) :
    ∃ before : Machine, (operation.apply m).2 = before.reset := by
  cases operation with
  | loadTokens tokens =>
    obtain ⟨ops, -, same⟩ := bind_pure_eq_ok_iff.mp (eq_ok_of_accept accepted)
    exact ⟨_, same.symm⟩
  | loadCodes codes =>
    obtain ⟨ops, -, same⟩ := bind_pure_eq_ok_iff.mp (eq_ok_of_accept accepted)
    exact ⟨_, same.symm⟩
  | loadInput text =>
    obtain ⟨bytes, -, same⟩ := bind_pure_eq_ok_iff.mp (eq_ok_of_accept accepted)
    exact ⟨_, same.symm⟩
  | reset => exact ⟨m, rfl⟩
  | _ => exact kind.elim

end Machine

end TapeMachine
