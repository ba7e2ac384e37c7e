import TapeMachine.Proofs.Machine.Budget
import TapeMachine.Proofs.Machine.History

/-!
The instructions that operations execute, each with the machine it is executed on. Main statement:
between operations that take instructions only as a whole, a machine is halted exactly when its
program counter is past the stop mark, its steps are the instructions executed since the last reset,
and once it is halted only its tape can change until it is reset.
-/

set_option autoImplicit false

namespace TapeMachine

/-- An instruction and the machine that executes it, whose program counter stands behind it. -/
structure Execution where
  op : Opcode
  before : Machine

def Execution.after (e : Execution) : Machine := e.before.execute e.op

namespace Machine

/-- What a machine executes when it is asked for `n` steps, in order. -/
def executions : Nat → Machine → List Execution
  | 0, _ => []
  | n + 1, m =>
    match m.current? with
    | some op => ⟨op, m.passed⟩ :: executions n m.next
    | none => []

/-- As many steps as a run can take: all that its budget allows, or one for each configuration. -/
def horizon (budget : Option Nat) (m : Machine) : Nat := budget.getD m.haltingBound

end Machine

namespace Operation

/-- The instructions that an operation executes, in order. -/
def executions (operation : Operation) (m : Machine) : List Execution :=
  match operation with
  | execute code =>
    match Opcode.ofCode? code with
    | some op => [⟨op, m⟩]
    | none => []
  | step => m.executions 1
  | run limit =>
    match StepLimit.ofValue limit with
    | .error _ => []
    | .ok limit =>
      match m.run limit.budget with
      | some _ => m.reset.executions (m.horizon limit.budget)
      | none => []
  | _ => []

/-- Whether an operation resets: a load that is not refused, a reset or a run. -/
def renews : Operation → Bool
  | loadTokens tokens => tokens.toOpcodes.isOk
  | loadCodes codes => codes.codesToOpcodes.isOk
  | loadInput text => text.toInputBytes.isOk
  | reset => true
  | run _ => true
  | _ => false

end Operation

namespace Machine

/--
What has been executed since the last reset, after `done` and then the given operations. A run that
never ends has not come to anything, so that nothing is forgotten for it.
-/
def executedSinceReset : List Operation → Machine → List Execution → List Execution
  | [], _, done => done
  | operation :: rest, m, done =>
    let kept := if operation.renews ∧ (operation.apply m).1 ≠ .endless then [] else done
    executedSinceReset rest (operation.apply m).2 (kept ++ operation.executions m)

variable {m m' : Machine}

section Steps

private theorem map_op_executions (n : Nat) (m : Machine) :
    (executions n m).map Execution.op = executed n m := by
  induction n generalizing m with
  | zero => rfl
  | succ n ih =>
    rw [executions, executed]
    cases m.current? with
    | none => rfl
    | some op => rw [List.map_cons, ih]

theorem steps_after_executions (n : Nat) (m : Machine) :
    (m.after n).steps = m.steps + (m.executions n).length := by
  rw [steps_after, ← map_op_executions, List.length_map]

theorem eq_after_horizon_of_run {budget : Option Nat} {outcome : Outcome} {last : Machine}
    (ran : m.run budget = some (outcome, last)) : last = m.reset.after (m.horizon budget) := by
  cases budget with
  | some k =>
    obtain ⟨-, rfl⟩ := Prod.mk.inj (Option.some.inj ran)
    exact runWithin_snd k m
  | none =>
    obtain ⟨rfl, stopped, n, rfl⟩ := run_none_eq_some_iff.mp ran
    have ends : m.runLength ≠ ⊤ := runLength_ne_top_iff.mpr ⟨_, ran⟩
    have covered := runLength_le_iff.mp (runLength_le_haltingBound ends)
    exact after_eq_after stopped covered

theorem executions_mono {j k : Nat} (le : j ≤ k) (m : Machine) :
    m.executions j <+: m.executions k := by
  induction j generalizing k m with
  | zero => exact List.nil_prefix
  | succ j ih =>
    obtain ⟨k, rfl⟩ : ∃ i, k = i + 1 := ⟨k - 1, by omega⟩
    rw [executions, executions]
    cases m.current? with
    | none => exact List.prefix_refl _
    | some op => exact (List.prefix_cons_inj _).mpr (ih (by omega) m.next)

/-- The machine with another tape and another unread input, each of them made from its own. -/
def refit (f : Tape → Tape) (g : List UInt8 → List UInt8) (m : Machine) : Machine :=
  { m with tape := f m.tape, input := g m.input }

/-- Of the tape and the input, loops see no more than whether the cell is zero. -/
theorem move_refit {f : Tape → Tape} {g : List UInt8 → List UInt8} (move : Move m m')
    (reads : (f m.tape).read = m.tape.read)
    (plain : ∀ (p : Plain) tape input output, m.current? = some p.opcode →
      Contents.of tape input output = p.effect m.contents →
        Contents.of (f tape) (g input) output = p.effect (m.refit f g).contents) :
    Move (m.refit f g) (m'.refit f g) := by
  cases move with
  | plain p tape input output here effect =>
    exact .plain p (f tape) (g input) output here (plain p tape input output here effect)
  | enter here nonzero => exact .enter here (reads ▸ nonzero)
  | skip stop here zero found => exact .skip stop here (reads.trans zero) found
  | abandon here zero missing => exact .abandon here (reads.trans zero) missing
  | ignore here entered => exact .ignore here entered
  | again body outer here entered nonzero => exact .again body outer here entered (reads ▸ nonzero)
  | leave body outer here entered zero => exact .leave body outer here entered (reads.trans zero)
  | halt here => exact .halt here

/--
Machines are changed in a way that every step respects except for the instructions of some kind:
then any number of steps without such an instruction respects it.
-/
theorem after_map {f : Machine → Machine} {Excluded : Execution → Prop}
    (stays : ∀ {a : Machine}, a.current? = none → (f a).current? = none)
    (moves : ∀ {a b : Machine}, Move a b →
      (∀ op, a.current? = some op → ¬ Excluded ⟨op, a.passed⟩) → Move (f a) (f b))
    {n : Nat} (allowed : ∀ e ∈ m.executions n, ¬ Excluded e) :
    (f m).after n = f (m.after n) := by
  induction n generalizing m with
  | zero => rfl
  | succ n ih =>
    cases here : m.current? with
    | none => rw [after_of_current?_eq_none here, after_of_current?_eq_none (stays here)]
    | some op =>
      have running : m.current? ≠ none := by
        rw [here]
        exact Option.some_ne_none op
      rw [executions, here] at allowed
      have first : ∀ op', m.current? = some op' → ¬ Excluded ⟨op', m.passed⟩ := by
        intro op' here'
        obtain rfl := Option.some.inj (here.symm.trans here')
        exact allowed _ List.mem_cons_self
      rw [after, after, (moves (move_next running) first).next_eq]
      exact ih fun e later => allowed e (List.mem_cons_of_mem _ later)

end Steps

section Whole

variable {operation : Operation}

private theorem accept_ne_endless {loaded : Except Value.Fault Machine} :
    (m.accept loaded).1 ≠ .endless := by
  cases loaded <;> exact Reply.noConfusion

/-- A load, a reset or a run that comes back starts from a reset. -/
theorem exists_after_reset (renews : operation.renews = true)
    (back : (operation.apply m).1 ≠ .endless) :
    ∃ (start : Machine) (n : Nat), (operation.apply m).2 = start.reset.after n ∧
      operation.executions m = start.reset.executions n := by
  cases operation with
  | loadTokens tokens =>
    obtain ⟨ops, program⟩ := isOk_iff.mp renews
    rw [apply_loadTokens program]
    exact ⟨{ m with code := ops.toArray }, 0, rfl, rfl⟩
  | loadCodes codes =>
    obtain ⟨ops, program⟩ := isOk_iff.mp renews
    rw [apply_loadCodes program]
    exact ⟨{ m with code := ops.toArray }, 0, rfl, rfl⟩
  | loadInput text =>
    obtain ⟨bytes, input⟩ := isOk_iff.mp renews
    rw [apply_loadInput input]
    exact ⟨{ m with input := bytes }, 0, rfl, rfl⟩
  | reset => exact ⟨m, 0, rfl, rfl⟩
  | run limit =>
    obtain ⟨fault, unknown, applied⟩ | ⟨allowed, outcome, last, known, ran, applied⟩ |
      ⟨allowed, known, ran, applied⟩ := apply_run_cases limit m
    · rw [applied, Operation.executions, unknown]
      exact ⟨m, 0, rfl, rfl⟩
    · rw [applied, Operation.executions, known]
      simp only [ran]
      exact ⟨m, m.horizon allowed.budget, eq_after_horizon_of_run ran, rfl⟩
    · rw [applied] at back
      contradiction
  | _ => contradiction

private theorem exists_after_of_not_renews (whole : operation.Whole)
    (stays : ¬ (operation.renews = true ∧ (operation.apply m).1 ≠ .endless)) :
    ∃ (n : Nat) (tape : Tape), (operation.apply m).2 = { m.after n with tape := tape } ∧
      operation.executions m = m.executions n := by
  cases operation with
  | step =>
    rw [apply_step_eq]
    exact ⟨1, m.next.tape, rfl, rfl⟩
  | store v =>
    rw [Operation.apply, storeValue]
    cases v.toInt with
    | error fault => exact ⟨0, m.tape, rfl, rfl⟩
    | ok n => exact ⟨0, m.tape.store n, rfl, rfl⟩
  | moveLeft => exact ⟨0, m.tape.moveLeft, rfl, rfl⟩
  | moveRight => exact ⟨0, m.tape.moveRight, rfl, rfl⟩
  | resetTape => exact ⟨0, m.tape.reset, rfl, rfl⟩
  | loadTokens tokens =>
    obtain ⟨fault, refused⟩ := not_isOk_iff.mp fun ok => stays ⟨ok, accept_ne_endless⟩
    rw [Operation.apply, loadTokens, refused]
    exact ⟨0, m.tape, rfl, rfl⟩
  | loadCodes codes =>
    obtain ⟨fault, refused⟩ := not_isOk_iff.mp fun ok => stays ⟨ok, accept_ne_endless⟩
    rw [Operation.apply, loadCodes, refused]
    exact ⟨0, m.tape, rfl, rfl⟩
  | loadInput text =>
    obtain ⟨fault, refused⟩ := not_isOk_iff.mp fun ok => stays ⟨ok, accept_ne_endless⟩
    rw [Operation.apply, loadInput, refused]
    exact ⟨0, m.tape, rfl, rfl⟩
  | run limit =>
    have endless : ((Operation.run limit).apply m).1 = .endless :=
      not_not.mp fun back => stays ⟨rfl, back⟩
    obtain ⟨fault, unknown, applied⟩ | ⟨allowed, outcome, last, known, ran, applied⟩ |
      ⟨allowed, known, ran, applied⟩ := apply_run_cases limit m
    · rw [applied] at endless
      contradiction
    · rw [applied] at endless
      contradiction
    · rw [applied, Operation.executions, known]
      simp only [ran]
      exact ⟨0, m.tape, rfl, rfl⟩
  | reset => exact absurd ⟨rfl, Reply.noConfusion⟩ stays
  | fetch => exact whole.elim
  | execute code => exact whole.elim

end Whole

section Histories

variable {history later : List Operation} {done : List Execution}

private theorem sound_new (tape : Tape) :
    Sound (new tape) := Sound.reset { new tape with tape := tape }

theorem Sound.operate (sound : Sound m) (whole : ∀ operation ∈ history, operation.Whole) :
    Sound (m.operate history) := by
  induction history generalizing m with
  | nil => exact sound
  | cons operation rest ih =>
    obtain ⟨first, others⟩ := List.forall_mem_cons.mp whole
    exact ih (sound.change (change_apply first)) others

private theorem steps_operate (whole : ∀ operation ∈ history, operation.Whole)
    (count : m.steps = done.length) :
    (m.operate history).steps = (executedSinceReset history m done).length := by
  induction history generalizing m done with
  | nil => exact count
  | cons operation rest ih =>
    obtain ⟨first, others⟩ := List.forall_mem_cons.mp whole
    refine ih others ?_
    by_cases renewed : operation.renews = true ∧ (operation.apply m).1 ≠ .endless
    · obtain ⟨start, n, applied, executed⟩ := exists_after_reset renewed.1 renewed.2
      rw [if_pos renewed, applied, executed, List.nil_append, steps_after_executions]
      exact Nat.zero_add _
    · obtain ⟨n, tape, applied, executed⟩ := exists_after_of_not_renews first renewed
      rw [if_neg renewed, applied, executed, List.length_append, ← count]
      exact steps_after_executions n m

private theorem exists_tape_of_stopped (stopped : m.current? = none)
    (idle : ∀ operation ∈ later, operation.Whole ∧ operation.renews = false) :
    ∃ tape : Tape, m.operate later = { m with tape := tape } := by
  induction later generalizing m with
  | nil => exact ⟨m.tape, rfl⟩
  | cons operation rest ih =>
    obtain ⟨⟨whole, stays⟩, others⟩ := List.forall_mem_cons.mp idle
    obtain ⟨n, tape, applied, -⟩ :=
      exists_after_of_not_renews (m := m) whole fun renewed => by simp [stays] at renewed
    rw [after_of_current?_eq_none stopped] at applied
    rw [operate, applied]
    exact ih (m := { m with tape := tape }) stopped others

/--
A new machine is asked for operations that take instructions only as a whole. It is halted exactly
when its program counter is past the stop mark; a step finds no instruction exactly then, and
changes nothing; its steps are the instructions executed since the last reset. Once it is halted,
everything but its tape stays until a load that is not refused, a reset or a run.
-/
theorem halted_exactly_past_the_end (capacity : Nat) (positive : 0 < capacity)
    (history : List Operation) (whole : ∀ operation ∈ history, operation.Whole) :
    let fresh := new (Tape.blank capacity positive)
    let m := fresh.operate history
    (m.halted = true ↔ m.pc = m.program.size) ∧
    ((Operation.step.apply m).1 = .instruction none ↔ m.halted = true) ∧
    ((Operation.step.apply m).1 = .instruction none → (Operation.step.apply m).2 = m) ∧
    m.steps = (executedSinceReset history fresh []).length ∧
    (m.halted = true → ∀ later : List Operation,
      (∀ operation ∈ later, operation.Whole ∧ operation.renews = false) →
      ∃ tape : Tape, m.operate later = { m with tape := tape }) := by
  intro fresh m
  have sound : Sound m := (sound_new _).operate whole
  have stepped : Operation.step.apply m = (.instruction m.current?, m.next) := apply_step_eq m
  have found : (Operation.step.apply m).1 = .instruction none ↔ m.current? = none := by
    rw [stepped, Reply.instruction.injEq]
  refine ⟨?_, ?_, ?_, steps_operate whole rfl, ?_⟩
  · have size : m.program.size = m.length := Array.size_push _
    rw [sound.halted_iff, current?_eq_none_iff, size]
    exact ⟨fun past => Nat.le_antisymm sound.pc_le past, fun same => same.ge⟩
  · rw [found, sound.halted_iff]
  · intro nothing
    rw [stepped]
    exact next_of_current?_eq_none (found.mp nothing)
  · intro halted later idle
    exact exists_tape_of_stopped (sound.halted_iff.mp halted) idle

/--
A limited run stops at a stop mark inside an open loop, on its very last step; a step, a failing
load and a change of the tape come after it.
-/
theorem halted_exactly_past_the_end_early :
    let fresh := new (Tape.blank 1 Nat.one_pos)
    let history : List Operation :=
      [.loadCodes (.list [.int 1, .int 7, .int 255, .int 8]), .step, .store (.int 5),
        .run (.int 3)]
    let later : List Operation := [.step, .loadInput (.int 0), .store (.int 9)]
    let m := fresh.operate history
    (∀ operation ∈ history, operation.Whole) ∧
    (∀ operation ∈ later, operation.Whole ∧ operation.renews = false) ∧
    m.halted = true ∧ m.pc = m.program.size ∧ m.loops = [2] ∧
    m.steps = (executedSinceReset history fresh []).length ∧
    ∃ tape : Tape, m.operate later = { m with tape := tape } := by
  intro fresh history later m
  have whole : ∀ operation ∈ history, operation.Whole := by simp [history, Operation.Whole]
  have idle : ∀ operation ∈ later, operation.Whole ∧ operation.renews = false := by
    simp only [later, List.forall_mem_cons]
    exact ⟨⟨trivial, rfl⟩, ⟨trivial, rfl⟩, ⟨trivial, rfl⟩, by simp⟩
  have halted : m.halted = true := by decide +kernel
  obtain ⟨atEnd, -, -, steps, fixed⟩ := halted_exactly_past_the_end 1 Nat.one_pos history whole
  exact ⟨whole, idle, halted, atEnd.mp halted, by decide +kernel, steps, fixed halted later idle⟩

end Histories

end Machine

end TapeMachine
