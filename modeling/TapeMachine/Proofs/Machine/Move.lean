import Mathlib.Tactic.Ring
import TapeMachine.Machine.Operation
import TapeMachine.Proofs.Machine.Contents

/-!
Single steps of the machine, and any number of them. Main statements: what a machine does in one
step is one of eight moves, each move is the only one that its machine can make, and a run under a
budget makes as many of them as the budget allows.
-/

set_option autoImplicit false

namespace TapeMachine.Machine

/-- The machine after it has been asked for a step, whether or not an instruction was left. -/
def next (m : Machine) : Machine :=
  match m.step with
  | some (_, stepped) => stepped
  | none => m

def after : Nat → Machine → Machine
  | 0, m => m
  | n + 1, m => after n m.next

/-- The instructions that a machine executes when it is asked for `n` steps, in order. -/
def executed : Nat → Machine → List Opcode
  | 0, _ => []
  | n + 1, m =>
    match m.current? with
    | some op => op :: executed n m.next
    | none => []

/-- What a machine can do in one step. -/
inductive Move (m : Machine) : Machine → Prop
  | plain (p : Plain) (tape : Tape) (input : List UInt8) (output : Array UInt8)
      (here : m.current? = some p.opcode)
      (effect : Contents.of tape input output = p.effect m.contents) :
      Move m { m with
        pc := m.pc + 1, tape := tape, input := input, output := output, steps := m.steps + 1 }
  | enter (here : m.current? = some .loopStart) (nonzero : m.tape.read ≠ 0) :
      Move m { m with pc := m.pc + 1, loops := (m.pc + 1) :: m.loops, steps := m.steps + 1 }
  /-- Past a loop that is closed. -/
  | skip (stop : Nat) (here : m.current? = some .loopStart) (zero : m.tape.read = 0)
      (found : Brackets.closing? m.code (m.pc + 1) 0 = some stop) :
      Move m { m with pc := stop + 1, steps := m.steps + 1 }
  /-- Past a loop that is never closed. -/
  | abandon (here : m.current? = some .loopStart) (zero : m.tape.read = 0)
      (missing : Brackets.closing? m.code (m.pc + 1) 0 = none) :
      Move m { m with pc := m.code.size, steps := m.steps + 1 }
  | ignore (here : m.current? = some .loopEnd) (entered : m.loops = []) :
      Move m { m with pc := m.pc + 1, steps := m.steps + 1, unmatched := m.unmatched + 1 }
  | again (body : Nat) (outer : List Nat) (here : m.current? = some .loopEnd)
      (entered : m.loops = body :: outer) (nonzero : m.tape.read ≠ 0) :
      Move m { m with pc := body, steps := m.steps + 1 }
  | leave (body : Nat) (outer : List Nat) (here : m.current? = some .loopEnd)
      (entered : m.loops = body :: outer) (zero : m.tape.read = 0) :
      Move m { m with pc := m.pc + 1, loops := outer, steps := m.steps + 1 }
  | halt (here : m.current? = some .halt) :
      Move m { m with pc := m.length, steps := m.steps + 1, halted := true }

variable {m m' : Machine}

section Current

private theorem opcodeAt?_eq (m : Machine) (i : Nat) : m.opcodeAt? i = m.program[i]? := by
  rw [opcodeAt?, program, Array.getElem?_push]
  split
  · next inside => rw [if_neg (by omega), Array.getElem?_eq_getElem inside]
  · split
    · rfl
    · next outside beyond => rw [Array.getElem?_eq_none (by omega)]

theorem current?_eq (m : Machine) : m.current? = m.program[m.pc]? := opcodeAt?_eq m m.pc

theorem current?_eq_none_iff : m.current? = none ↔ m.length ≤ m.pc := by
  rw [current?_eq, Array.getElem?_eq_none_iff, program, Array.size_push, length]

theorem current?_of_lt (inside : m.pc < m.code.size) : m.current? = m.code[m.pc]? := by
  rw [current?_eq, program, Array.getElem?_push_lt inside,
    Array.getElem?_eq_getElem inside]

theorem current?_of_eq (last : m.pc = m.code.size) : m.current? = some .halt := by
  rw [current?_eq, program, last, Array.getElem?_push_size]

theorem getElem?_of_current? {op : Opcode} (here : m.current? = some op) (ne : op ≠ .halt) :
    m.code[m.pc]? = some op := by
  have inside : m.pc < m.code.size := by
    by_contra outside
    rcases Nat.lt_or_ge m.code.size m.pc with beyond | last
    · rw [current?_eq_none_iff.mpr beyond] at here
      contradiction
    · rw [current?_of_eq (by omega), Option.some.injEq] at here
      exact ne here.symm
  rw [← current?_of_lt inside, here]

theorem lt_of_current? {op : Opcode} (here : m.current? = some op) (ne : op ≠ .halt) :
    m.pc < m.code.size :=
  (Array.getElem?_eq_some_iff.mp (getElem?_of_current? here ne)).1

end Current

theorem next_eq_perform {op : Opcode} (here : m.current? = some op) : m.next = m.perform op := by
  rw [next, step, here]
  rfl

theorem next_of_current?_eq_none (h : m.current? = none) : m.next = m := by
  rw [next, step, h]
  rfl

theorem Move.next_eq (move : Move m m') : m.next = m' := by
  cases move with
  | plain p tape input output here effect =>
    obtain ⟨tape', input', output', effect', same⟩ := m.passed.execute_plain p
    obtain ⟨rfl, rfl, rfl⟩ := Contents.of_injective (effect.trans effect'.symm)
    rw [next_eq_perform here, perform, same]
    rfl
  | enter here nonzero => simp [next_eq_perform here, perform, passed, execute, nonzero]
  | skip stop here zero found =>
    simp [next_eq_perform here, perform, passed, execute, skipLoop, zero, found]
  | abandon here zero missing =>
    simp [next_eq_perform here, perform, passed, execute, skipLoop, zero, missing]
  | ignore here entered => simp [next_eq_perform here, perform, passed, execute, entered]
  | again body outer here entered nonzero =>
    simp [next_eq_perform here, perform, passed, execute, entered, nonzero]
  | leave body outer here entered zero =>
    simp [next_eq_perform here, perform, passed, execute, entered, zero]
  | halt here => rw [next_eq_perform here]; rfl

private theorem exists_move (running : m.current? ≠ none) : ∃ m', Move m m' := by
  obtain ⟨op, here⟩ := Option.ne_none_iff_exists'.mp running
  cases plain : op.plain? with
  | some p =>
    obtain rfl := Opcode.eq_opcode_of_plain? plain
    obtain ⟨tape, input, output, effect, -⟩ := m.execute_plain p
    exact ⟨_, .plain p tape input output here effect⟩
  | none =>
    cases op with
    | loopStart =>
      by_cases zero : m.tape.read = 0
      · cases search : Brackets.closing? m.code (m.pc + 1) 0 with
        | some stop => exact ⟨_, .skip stop here zero search⟩
        | none => exact ⟨_, .abandon here zero search⟩
      · exact ⟨_, .enter here zero⟩
    | loopEnd =>
      cases entered : m.loops with
      | nil => exact ⟨_, .ignore here entered⟩
      | cons body outer =>
        by_cases zero : m.tape.read = 0
        · exact ⟨_, .leave body outer here entered zero⟩
        · exact ⟨_, .again body outer here entered zero⟩
    | halt => exact ⟨_, .halt here⟩
    | _ => contradiction

theorem move_next (running : m.current? ≠ none) : Move m m.next := by
  obtain ⟨m', move⟩ := exists_move running
  rwa [move.next_eq]

namespace Move

theorem running (move : Move m m') : m.current? ≠ none := by
  cases move <;> simp_all

theorem code_eq (move : Move m m') : m'.code = m.code := by
  cases move <;> rfl

theorem steps_eq (move : Move m m') : m'.steps = m.steps + 1 := by
  cases move <;> rfl

theorem capacity_eq (move : Move m m') : m'.tape.capacity = m.tape.capacity := by
  cases move with
  | plain p tape input output here effect =>
    have cells := p.length_cells_effect m.contents
    rw [← effect] at cells
    simpa [contents, Tape.capacity] using cells
  | _ => rfl

theorem input_suffix (move : Move m m') : m'.input <:+ m.input := by
  cases move with
  | plain p tape input output here effect =>
    have unread := p.input_effect_suffix m.contents
    rw [← effect] at unread
    exact Contents.of_suffix_toNat unread
  | _ => exact List.suffix_refl _

theorem output_prefix (move : Move m m') : m.output.toList <+: m'.output.toList := by
  cases move with
  | plain p tape input output here effect =>
    have written := p.output_prefix_effect m.contents
    rw [← effect] at written
    exact (List.prefix_map_iff_of_injective fun _ _ => UInt8.toNat_inj.mp).mp written
  | _ => exact List.prefix_refl _

end Move

section After

theorem after_succ (n : Nat) (m : Machine) : after (n + 1) m = (after n m).next := by
  induction n generalizing m with
  | zero => rfl
  | succ n ih => exact ih m.next

theorem after_add (a b : Nat) (m : Machine) : after (a + b) m = after b (after a m) := by
  induction b with
  | zero => rfl
  | succ b ih => rw [← Nat.add_assoc, after_succ, after_succ, ih]

theorem after_of_current?_eq_none (h : m.current? = none) (n : Nat) : after n m = m := by
  induction n with
  | zero => rfl
  | succ n ih => rw [after, next_of_current?_eq_none h, ih]

theorem current?_after_eq_none_of_le {a b : Nat} (stopped : (after a m).current? = none)
    (le : a ≤ b) : (after b m).current? = none := by
  obtain ⟨d, rfl⟩ := Nat.exists_eq_add_of_le le
  rw [after_add, after_of_current?_eq_none stopped]
  exact stopped

theorem after_eq_after {a b : Nat} (atA : (after a m).current? = none)
    (atB : (after b m).current? = none) : after a m = after b m := by
  rcases Nat.le_total a b with le | le
  · obtain ⟨d, rfl⟩ := Nat.exists_eq_add_of_le le
    rw [after_add, after_of_current?_eq_none atA]
  · obtain ⟨d, rfl⟩ := Nat.exists_eq_add_of_le le
    rw [after_add, after_of_current?_eq_none atB]

/-- What every move keeps is kept by any number of steps. -/
theorem after_induction {P : Machine → Prop} (keep : ∀ {a b}, Move a b → P a → P b) (start : P m)
    (n : Nat) : P (after n m) := by
  induction n with
  | zero => exact start
  | succ n ih =>
    rw [after_succ]
    by_cases stopped : (after n m).current? = none
    · rwa [next_of_current?_eq_none stopped]
    · exact keep (move_next stopped) ih

theorem code_after (n : Nat) (m : Machine) : (after n m).code = m.code :=
  after_induction (P := fun a => a.code = m.code) (fun move same => move.code_eq.trans same) rfl n

theorem capacity_after (n : Nat) (m : Machine) :
    (after n m).tape.capacity = m.tape.capacity :=
  after_induction (P := fun a => a.tape.capacity = m.tape.capacity)
    (fun move same => move.capacity_eq.trans same) rfl n

theorem input_after_suffix (n : Nat) (m : Machine) : (after n m).input <:+ m.input :=
  after_induction (P := fun a => a.input <:+ m.input)
    (fun move same => move.input_suffix.trans same) (List.suffix_refl _) n

theorem output_prefix_after (n : Nat) (m : Machine) :
    m.output.toList <+: (after n m).output.toList :=
  after_induction (P := fun a => m.output.toList <+: a.output.toList)
    (fun move same => same.trans move.output_prefix) (List.prefix_refl _) n

end After

section Executed

theorem executed_succ {n : Nat} {op : Opcode} (here : m.current? = some op) :
    executed (n + 1) m = op :: executed n m.next := by
  rw [executed, here]

theorem executed_of_current?_eq_none {n : Nat} (stopped : m.current? = none) :
    executed n m = [] := by
  cases n with
  | zero => rfl
  | succ n => rw [executed, stopped]

theorem executed_add (a b : Nat) (m : Machine) :
    executed (a + b) m = executed a m ++ executed b (after a m) := by
  induction a generalizing m with
  | zero => simp [executed, after]
  | succ a ih =>
    rw [Nat.add_right_comm, after]
    cases here : m.current? with
    | none =>
      simp only [executed_of_current?_eq_none here, next_of_current?_eq_none here,
        after_of_current?_eq_none here, List.append_nil]
    | some op => rw [executed_succ here, executed_succ here, ih, List.cons_append]

theorem steps_after (n : Nat) (m : Machine) :
    (m.after n).steps = m.steps + (executed n m).length := by
  induction n generalizing m with
  | zero => rfl
  | succ n ih =>
    cases here : m.current? with
    | none =>
      rw [executed_of_current?_eq_none here, after_of_current?_eq_none here]
      rfl
    | some op =>
      have move : Move m m.next := move_next (by rw [here]; exact Option.some_ne_none op)
      rw [executed_succ here, after, ih, move.steps_eq, List.length_cons]
      omega

theorem executed_length (n : Nat) (m : Machine) :
    executed (executed n m).length m = executed n m := by
  induction n generalizing m with
  | zero => rfl
  | succ n ih =>
    cases here : m.current? with
    | none => rw [executed_of_current?_eq_none here, executed_of_current?_eq_none here]
    | some op => rw [executed_succ here, List.length_cons, executed_succ here, ih]

theorem after_length_executed (n : Nat) (m : Machine) :
    m.after (executed n m).length = m.after n := by
  induction n generalizing m with
  | zero => rfl
  | succ n ih =>
    cases here : m.current? with
    | none =>
      rw [executed_of_current?_eq_none here, after_of_current?_eq_none here,
        after_of_current?_eq_none here]
    | some op =>
      rw [executed_succ here, List.length_cons, after, ih]
      rfl

theorem lt_length_executed_iff {k n : Nat} :
    k < (executed n m).length ↔ k < n ∧ (after k m).current? ≠ none := by
  induction n generalizing k m with
  | zero => simp [executed]
  | succ n ih =>
    cases here : m.current? with
    | none => simp [executed_of_current?_eq_none here, after_of_current?_eq_none here, here]
    | some op =>
      rw [executed_succ here, List.length_cons]
      cases k with
      | zero => simp [after, here]
      | succ k => simpa only [Nat.add_lt_add_iff_right, after] using ih

end Executed

section Budget

private theorem Move.current?_eq_none_of_halted (move : Move m m') (running : m.halted = false)
    (halted : m'.halted = true) : m'.current? = none := by
  cases move with
  | halt here => exact current?_eq_none_iff.mpr le_rfl
  | _ => exact absurd (running.symm.trans halted) (by decide)

theorem advance_eq_after (n : Nat) (running : m.halted = false) :
    m.advance n = after n m := by
  induction n generalizing m with
  | zero => rfl
  | succ n ih =>
    rw [advance, after]
    cases here : m.current? with
    | none => rw [next_of_current?_eq_none here, after_of_current?_eq_none here]
    | some op =>
      have move : Move m m.next := move_next (by rw [here]; exact Option.some_ne_none op)
      simp only [← next_eq_perform here]
      cases halted : m.next.halted with
      | true =>
        have stopped := move.current?_eq_none_of_halted running halted
        rw [after_of_current?_eq_none stopped, if_pos rfl]
      | false =>
        rw [← ih halted]
        exact if_neg (by decide)

private theorem halted_eq_false_of_not_finished (going : m.finished = false) : m.halted = false :=
  (Bool.or_eq_false_iff.mp going).1

theorem of_settle_eq_some {rounds budget : Nat} {last : Machine} (running : m.halted = false)
    (settled : settle rounds budget m = some last) :
    last.finished = true ∧ ∃ n, last = after n m := by
  induction rounds generalizing budget m with
  | zero => contradiction
  | succ rounds ih =>
    simp only [settle, advance_eq_after budget running] at settled
    cases ended : (after budget m).finished with
    | true =>
      rw [ended, if_pos rfl, Option.some.injEq] at settled
      exact ⟨settled ▸ ended, budget, settled.symm⟩
    | false =>
      rw [ended, if_neg (by decide)] at settled
      obtain ⟨finished, n, rfl⟩ := ih (halted_eq_false_of_not_finished ended) settled
      exact ⟨finished, budget + n, (after_add budget n m).symm⟩

/-- The budgets of all rounds together are used up before a machine is given up. -/
theorem of_settle_eq_none {rounds budget : Nat} (going : m.finished = false)
    (unsettled : settle rounds budget m = none) :
    (after ((2 ^ rounds - 1) * budget) m).finished = false := by
  induction rounds generalizing budget m with
  | zero => simpa [after] using going
  | succ rounds ih =>
    simp only [settle, advance_eq_after budget (halted_eq_false_of_not_finished going)]
      at unsettled
    cases ended : (after budget m).finished with
    | true =>
      rw [ended, if_pos rfl] at unsettled
      contradiction
    | false =>
      rw [ended, if_neg (by decide)] at unsettled
      have later := ih ended unsettled
      have total : (2 ^ (rounds + 1) - 1) * budget =
          budget + (2 ^ rounds - 1) * (2 * budget) := by
        have positive : 0 < 2 ^ rounds := Nat.two_pow_pos rounds
        obtain ⟨k, power⟩ : ∃ k, 2 ^ rounds = k + 1 := ⟨2 ^ rounds - 1, by omega⟩
        rw [pow_succ, power, show (k + 1) * 2 - 1 = 2 * k + 1 by omega, Nat.add_sub_cancel]
        ring
      rw [total, after_add]
      exact later

theorem exists_after_of_run {budget : Option Nat} {outcome : Outcome} {last : Machine}
    (ran : m.run budget = some (outcome, last)) : ∃ n, last = after n m.reset := by
  cases budget with
  | some n =>
    obtain ⟨-, rfl⟩ := Prod.mk.inj (Option.some.inj ran)
    exact ⟨n, advance_eq_after n rfl⟩
  | none =>
    obtain ⟨found, settled, same⟩ := Option.map_eq_some_iff.mp ran
    obtain ⟨-, rfl⟩ := Prod.mk.inj same
    exact (of_settle_eq_some rfl settled).2

end Budget

end TapeMachine.Machine
