import TapeMachine.Proofs.Machine.Executions

/-!
The direction in which a machine goes through its program. Main statement: only a loop end that
begins its loop again takes the program counter back, so that a machine executes at most as many
instructions as its program has for each time that this happens and once more; and a program
without loop starts is gone through once, up to its first stop mark.
-/

set_option autoImplicit false

namespace TapeMachine

/-- Whether a loop end begins its loop again. -/
def Execution.JumpsBack (e : Execution) : Prop :=
  e.op = .loopEnd ∧ e.before.loops ≠ [] ∧ e.before.tape.read ≠ 0

instance (e : Execution) : Decidable e.JumpsBack :=
  inferInstanceAs (Decidable (e.op = .loopEnd ∧ e.before.loops ≠ [] ∧ e.before.tape.read ≠ 0))

namespace Machine

/-- How often the first `n` steps of a machine begin a loop again. -/
def jumpsBack (n : Nat) (m : Machine) : Nat := (m.executions n).countP fun e => e.JumpsBack

/-- Where the first stop mark of a program stands, be it the one behind the code. -/
def firstStop (m : Machine) : Nat := m.program.toList.idxOf .halt

variable {m m' : Machine} {op : Opcode} {n : Nat}

section Direction

private theorem pc_after_execution (here : m.current? = some op) :
    (Execution.after ⟨op, m.passed⟩).pc = m.next.pc := by
  rw [next_eq_perform here]
  rfl

private theorem pc_lt_of_move (move : Move m m') (here : m.current? = some op)
    (onward : ¬ Execution.JumpsBack ⟨op, m.passed⟩) : m.pc < m'.pc := by
  cases move with
  | plain p tape input output _ effect => exact Nat.lt_succ_self _
  | enter _ nonzero => exact Nat.lt_succ_self _
  | skip stop start zero found =>
    have before : Brackets.opened m.code (m.pc + 1) = [] ++ m.pc :: Brackets.opened m.code m.pc :=
      Brackets.opened_start (getElem?_of_current? start (by decide))
    obtain ⟨le, -, -⟩ := Brackets.of_closing?_eq_some before found
    show m.pc < stop + 1
    omega
  | abandon start zero missing => exact lt_of_current? start (by decide)
  | ignore _ entered => exact Nat.lt_succ_self _
  | again body outer stop entered nonzero =>
    obtain rfl := Option.some.inj (here.symm.trans stop)
    have inLoop : m.passed.loops ≠ [] := by
      show m.loops ≠ []
      rw [entered]
      exact List.cons_ne_nil body outer
    exact absurd ⟨rfl, inLoop, nonzero⟩ onward
  | leave body outer _ entered zero => exact Nat.lt_succ_self _
  | halt stop =>
    have inside : m.pc < m.length := by
      by_contra past
      rw [current?_eq_none_iff.mpr (Nat.le_of_not_lt past)] at stop
      contradiction
    exact inside

private theorem Sound.pc_le_of_jumpsBack (sound : Sound m) (move : Move m m')
    (here : m.current? = some op)
    (back : Execution.JumpsBack ⟨op, m.passed⟩) : m'.pc ≤ m.pc := by
  obtain ⟨rfl, inLoop, nonzero⟩ := back
  cases move with
  | again body outer stop entered _ =>
    have stack := sound.loops_eq (lt_of_current? stop (by decide))
    rw [entered, Brackets.bodies] at stack
    obtain ⟨start, starts, within, rfl, rfl⟩ := List.map_eq_cons_iff.mp stack.symm
    exact (Brackets.of_suffix_opened ⟨[], within.symm⟩).1
  | plain p tape input output other effect =>
    have same := Option.some.inj (here.symm.trans other)
    exact absurd same.symm p.opcode_ne_loopEnd
  | enter other => cases Option.some.inj (here.symm.trans other)
  | skip stop other => cases Option.some.inj (here.symm.trans other)
  | abandon other => cases Option.some.inj (here.symm.trans other)
  | ignore _ entered => exact absurd entered inLoop
  | leave body outer _ entered zero => exact absurd zero nonzero
  | halt other => cases Option.some.inj (here.symm.trans other)

private theorem Sound.direction (sound : Sound m) : ∀ e ∈ m.executions n,
    (e.JumpsBack → e.after.pc < e.before.pc) ∧ (¬ e.JumpsBack → e.before.pc ≤ e.after.pc) := by
  induction n generalizing m with
  | zero => simp [executions]
  | succ n ih =>
    cases here : m.current? with
    | none => simp [executions, here]
    | some op =>
      have running : m.current? ≠ none := by
        rw [here]
        exact Option.some_ne_none op
      have move := move_next running
      rw [executions, here]
      refine List.forall_mem_cons.mpr ⟨?_, ih (sound.move move)⟩
      rw [pc_after_execution here]
      constructor
      · intro back
        exact Nat.lt_succ_of_le (sound.pc_le_of_jumpsBack move here back)
      · intro onward
        exact pc_lt_of_move move here onward

end Direction

section Bound

private theorem jumpsBack_succ (here : m.current? = some op) : m.jumpsBack (n + 1) =
    m.next.jumpsBack n + if Execution.JumpsBack ⟨op, m.passed⟩ then 1 else 0 := by
  rw [jumpsBack, executions, here, List.countP_cons, jumpsBack]
  simp

/-- The executed instructions are paid for by the way forward and, for each jump, by the program. -/
theorem length_executions_add_pc_le (n : Nat) (m : Machine) :
    (m.executions n).length + m.pc ≤ m.jumpsBack n * m.length + (m.after n).pc := by
  induction n generalizing m with
  | zero => simp [executions, Machine.after]
  | succ n ih =>
    cases here : m.current? with
    | none =>
      rw [after_of_current?_eq_none here, executions, here]
      simp
    | some op =>
      have running : m.current? ≠ none := by
        rw [here]
        exact Option.some_ne_none op
      have move := move_next running
      have rest := ih m.next
      rw [Machine.length, move.code_eq, ← Machine.length] at rest
      rw [Machine.after, jumpsBack_succ here, executions, here, List.length_cons, Nat.add_mul]
      by_cases back : Execution.JumpsBack ⟨op, m.passed⟩
      · have inside : m.pc < m.length := by
          by_contra past
          exact running (current?_eq_none_iff.mpr (Nat.le_of_not_lt past))
        rw [if_pos back, Nat.one_mul]
        omega
      · have forward := pc_lt_of_move move here back
        rw [if_neg back, Nat.zero_mul]
        omega

private theorem steps_after_reset_le (n : Nat) (m : Machine) :
    (m.reset.after n).steps ≤ (m.reset.jumpsBack n + 1) * m.length := by
  have paid := length_executions_add_pc_le n m.reset
  have inside : (m.reset.after n).pc ≤ m.length := by
    have within := ((Sound.reset m).after n).pc_le
    rwa [Machine.length, code_after] at within
  have count : (m.reset.after n).steps = (m.reset.executions n).length := by
    rw [steps_after_executions]
    exact Nat.zero_add _
  have length : m.reset.length = m.length := rfl
  rw [length] at paid
  rw [count, Nat.succ_mul]
  omega

end Bound

section Straight

/-- The machine has gone through the first `k` instructions of a program, once and in order. -/
structure Through (code : Array Opcode) (k : Nat) (m : Machine) : Prop where
  code_eq : m.code = code
  pc : m.pc = k
  loops : m.loops = []
  halted : m.halted = false
  steps : m.steps = k
  unmatched : m.unmatched = (code.toList.take k).count .loopEnd

private theorem Through.next {code : Array Opcode} {k : Nat} (through : Through code k m)
    (here : code[k]? = some op) (closed : op ≠ .loopStart) (unstopped : op ≠ .halt) :
    m.current? = some op ∧ Through code (k + 1) m.next := by
  obtain ⟨rfl, rfl, loops, halted, steps, unmatched⟩ := through
  have inside : m.pc < m.code.size := (Array.getElem?_eq_some_iff.mp here).1
  have current : m.current? = some op := by rw [current?_of_lt inside, here]
  refine ⟨current, ?_⟩
  have running : m.current? ≠ none := by
    rw [current]
    exact Option.some_ne_none op
  have counted : (m.code.toList.take (m.pc + 1)).count .loopEnd =
      m.unmatched + if op = .loopEnd then 1 else 0 := by
    have here' : m.code.toList[m.pc]? = some op := by simpa using here
    rw [List.take_add_one, here', Option.toList_some, List.count_append, unmatched,
      List.count_singleton]
    simp
  have same {op' : Opcode} (there : m.current? = some op') : op' = op :=
    Option.some.inj (there.symm.trans current)
  generalize stepped : m.next = m'
  have move : Move m m' := stepped ▸ move_next running
  cases move with
  | plain p tape input output there effect =>
    have other : op ≠ .loopEnd := same there ▸ p.opcode_ne_loopEnd
    rw [if_neg other] at counted
    exact ⟨rfl, rfl, loops, halted, congrArg (· + 1) steps, counted.symm⟩
  | ignore there entered =>
    rw [if_pos (same there).symm] at counted
    exact ⟨rfl, rfl, loops, halted, congrArg (· + 1) steps, counted.symm⟩
  | enter there => exact absurd (same there).symm closed
  | skip stop there => exact absurd (same there).symm closed
  | abandon there => exact absurd (same there).symm closed
  | again body outer there entered => simp [loops] at entered
  | leave body outer there entered => simp [loops] at entered
  | halt there => exact absurd (same there).symm unstopped

private theorem firstStop_le (m : Machine) : m.firstStop ≤ m.code.size := by
  have there : Opcode.halt ∈ m.program.toList := by simp [program]
  have inside := List.idxOf_lt_length_of_mem there
  rw [program, Array.length_toList, Array.size_push] at inside
  exact Nat.le_of_lt_succ inside

private theorem getElem?_firstStop (m : Machine) : m.program[m.firstStop]? = some .halt := by
  have there : Opcode.halt ∈ m.program.toList := by simp [program]
  have inside := List.idxOf_lt_length_of_mem there
  rw [← Array.getElem?_toList, List.getElem?_eq_some_iff]
  exact ⟨inside, List.getElem_idxOf inside⟩

private theorem exists_getElem?_of_lt_firstStop {k : Nat} (early : k < m.firstStop) :
    ∃ op, m.code[k]? = some op ∧ m.program[k]? = some op ∧ op ≠ .halt := by
  have inside : k < m.code.size := Nat.lt_of_lt_of_le early m.firstStop_le
  have here : m.program[k]? = some m.code[k] := by
    rw [program, Array.getElem?_push_lt inside]
  refine ⟨m.code[k], Array.getElem?_eq_getElem inside, here, ?_⟩
  intro stop
  have there : Opcode.halt ∈ m.program.toList := by simp [program]
  have passed : Opcode.halt ∈ m.program.toList.take (k + 1) := by
    rw [List.take_add_one, Array.getElem?_toList, here, stop]
    exact List.mem_append_right _ List.mem_cons_self
  rw [List.mem_take_iff_idxOf_lt there] at passed
  exact absurd early (Nat.not_lt_of_le (Nat.le_of_lt_succ passed))

theorem through_after (closed : .loopStart ∉ m.program) {k : Nat} (early : k ≤ m.firstStop) :
    executed k m.reset = m.program.toList.take k ∧ Through m.code k (m.reset.after k) := by
  induction k with
  | zero => exact ⟨rfl, rfl, rfl, rfl, rfl, rfl, rfl⟩
  | succ k ih =>
    obtain ⟨done, through⟩ := ih (Nat.le_of_succ_le early)
    obtain ⟨op, here, there, unstopped⟩ := exists_getElem?_of_lt_firstStop early
    have other : op ≠ .loopStart := by
      rintro rfl
      exact closed (Array.mem_of_getElem? there)
    obtain ⟨current, through'⟩ := through.next here other unstopped
    refine ⟨?_, after_succ k m.reset ▸ through'⟩
    rw [executed_add, done, executed_succ current, List.take_add_one, Array.getElem?_toList, there]
    rfl

private theorem stopped_after_firstStop (closed : .loopStart ∉ m.program) :
    let last := m.reset.after (m.firstStop + 1)
    executed (m.firstStop + 1) m.reset = m.program.toList.take (m.firstStop + 1) ∧
    last.halted = true ∧ last.current? = none ∧ last.steps = m.firstStop + 1 ∧
    last.unmatched = (m.program.toList.take m.firstStop).count .loopEnd := by
  intro last
  obtain ⟨done, through⟩ := through_after closed le_rfl
  have current : (m.reset.after m.firstStop).current? = some .halt := by
    rw [current?_eq, program, through.code_eq, ← program, through.pc]
    exact m.getElem?_firstStop
  have stepped : last = _ := (after_succ m.firstStop m.reset).trans (Move.halt current).next_eq
  have same : m.code.toList.take m.firstStop = m.program.toList.take m.firstStop := by
    rw [program, Array.toList_push, List.take_append_of_le_length m.firstStop_le]
  refine ⟨?_, ?_, ?_, ?_, ?_⟩
  · rw [executed_add, done, executed_succ current, List.take_add_one, Array.getElem?_toList,
      m.getElem?_firstStop]
    rfl
  · rw [stepped]
  · rw [stepped]
    exact current?_eq_none_iff.mpr le_rfl
  · rw [stepped]
    exact congrArg (· + 1) through.steps
  · rw [stepped, ← same]
    exact through.unmatched

end Straight

/--
Of the instructions that a machine executes from a reset on, those that begin a loop again lead back
and all others lead forward. So it executes at most as many instructions as its program has for each
time that it goes back, and once more. If there is no loop start in the program, a run ends with the
first stop mark, when everything up to it has been executed once and in order, and every loop end
among it has been counted as unmatched.
-/
theorem forward_between_jumps_back (m : Machine) :
    (∀ n, ∀ e ∈ m.reset.executions n,
      (e.JumpsBack → e.after.pc < e.before.pc) ∧ (¬ e.JumpsBack → e.before.pc ≤ e.after.pc)) ∧
    (∀ n, (m.reset.after n).steps ≤ (m.reset.jumpsBack n + 1) * m.program.size) ∧
    (.loopStart ∉ m.program →
      (∀ k ≤ m.firstStop, (m.reset.after k).halted = false) ∧
      ∃ last, m.run none = some (.halted, last) ∧ last = m.reset.after (m.firstStop + 1) ∧
        last.halted = true ∧ last.steps = m.firstStop + 1 ∧
        executed last.steps m.reset = m.program.toList.take (m.firstStop + 1) ∧
        last.unmatched = (m.program.toList.take m.firstStop).count .loopEnd) := by
  refine ⟨fun n => (Sound.reset m).direction, ?_, ?_⟩
  · intro n
    rw [program, Array.size_push]
    exact steps_after_reset_le n m
  · intro closed
    obtain ⟨done, halted, stopped, steps, unmatched⟩ := stopped_after_firstStop closed
    refine ⟨fun k early => (through_after closed early).2.halted, _, ?_, rfl, halted, steps, ?_,
      unmatched⟩
    · exact run_none_eq_some_iff.mpr ⟨rfl, stopped, _, rfl⟩
    · rw [steps]
      exact done

theorem forward_between_jumps_back_loop :
    let looping := (new (Tape.blank 1 Nat.one_pos)).load [.inc, .inc, .loopStart, .dec, .loopEnd]
    let straight := (new (Tape.blank 2 Nat.two_pos)).load
      [.inc, .loopEnd, .ptrRight, .loopEnd, .halt, .loopEnd, .dec]
    (looping.reset.jumpsBack 9 = 1 ∧ (looping.reset.after 9).steps = 8 ∧
      (looping.reset.after 9).steps ≤ (1 + 1) * looping.program.size) ∧
    .loopStart ∉ straight.program ∧ straight.firstStop = 4 ∧
    ∃ last, straight.run none = some (.halted, last) ∧ last.steps = 4 + 1 ∧
      executed last.steps straight.reset = [.inc, .loopEnd, .ptrRight, .loopEnd, .halt] ∧
      last.unmatched = 2 := by
  intro looping straight
  have once : looping.reset.jumpsBack 9 = 1 := by decide +kernel
  have steps : (looping.reset.after 9).steps = 8 := by decide +kernel
  have bound := (forward_between_jumps_back looping).2.1 9
  rw [once] at bound
  have closed : .loopStart ∉ straight.program := by decide +kernel
  have stop : straight.firstStop = 4 := by decide +kernel
  obtain ⟨-, last, ran, -, -, count, done, unmatched⟩ :=
    (forward_between_jumps_back straight).2.2 closed
  have front : straight.program.toList.take (straight.firstStop + 1) =
      [.inc, .loopEnd, .ptrRight, .loopEnd, .halt] := by decide +kernel
  have two : (straight.program.toList.take straight.firstStop).count .loopEnd = 2 := by
    decide +kernel
  rw [front] at done
  rw [two] at unmatched
  rw [stop] at count
  exact ⟨⟨once, steps, bound⟩, closed, stop, last, ran, count, done, unmatched⟩

end Machine

end TapeMachine
