import Mathlib.Data.Fintype.BigOperators
import Mathlib.Data.Fintype.Pigeonhole
import TapeMachine.Proofs.Machine.LoopStack

/-!
Runs without a limit. Main statement: such a run ends exactly when some number of single steps leads
to a machine with nothing left to execute, and that machine is the one it leaves behind. A machine
that is still running after as many steps as it has configurations has come back to one of them,
because the stack of loops is decided by the program counter.
-/

set_option autoImplicit false

namespace TapeMachine.Machine

/-- The machine without what never decides where it goes. -/
def core (m : Machine) : Machine := { m with output := #[], steps := 0, unmatched := 0 }

variable {m a b : Machine}

private theorem current?_eq_of_core_eq (same : a.core = b.core) : a.current? = b.current? := by
  calc a.current? = a.core.current? := rfl
    _ = b.core.current? := by rw [same]
    _ = b.current? := rfl

private theorem core_perform (op : Opcode) (m : Machine) :
    (m.perform op).core = (m.core.perform op).core := by
  cases op with
  | read =>
    obtain ⟨code, pc, loops, tape, input, output, steps, halted, unmatched⟩ := m
    cases input <;> rfl
  | loopStart =>
    by_cases zero : m.tape.read = 0
    · cases search : Brackets.closing? m.code (m.pc + 1) 0 <;>
        simp [perform, passed, execute, skipLoop, core, zero, search]
    · simp [perform, passed, execute, core, zero]
  | loopEnd =>
    cases entered : m.loops with
    | nil => simp [perform, passed, execute, core, entered]
    | cons body outer =>
      by_cases zero : m.tape.read = 0 <;> simp [perform, passed, execute, core, entered, zero]
  | _ => rfl

private theorem core_next_eq (same : a.core = b.core) : a.next.core = b.next.core := by
  have current := current?_eq_of_core_eq same
  cases here : a.current? with
  | none =>
    rw [next_of_current?_eq_none here, next_of_current?_eq_none (current ▸ here)]
    exact same
  | some op =>
    rw [next_eq_perform here, next_eq_perform (current ▸ here), core_perform, core_perform op b,
      same]

private theorem core_after_eq (same : a.core = b.core) (n : Nat) :
    (a.after n).core = (b.after n).core := by
  induction n with
  | zero => exact same
  | succ n ih =>
    rw [after_succ, after_succ]
    exact core_next_eq ih

private theorem current?_ne_none_of_core_eq {i j : Nat} (less : i < j)
    (same : (m.after i).core = (m.after j).core)
    (going : ∀ k ≤ j, (m.after k).current? ≠ none) (n : Nat) : (m.after n).current? ≠ none := by
  induction n using Nat.strong_induction_on with
  | _ n ih =>
    by_cases early : n ≤ j
    · exact going n early
    · obtain ⟨d, rfl⟩ := Nat.exists_eq_add_of_le (Nat.le_of_not_le early)
      have back : (m.after (j + d)).current? = (m.after (i + d)).current? := by
        rw [after_add, after_add]
        exact (current?_eq_of_core_eq (core_after_eq same d)).symm
      rw [back]
      exact ih (i + d) (by omega)

section Configurations

theorem haltingBound_eq (m : Machine) : m.haltingBound =
    m.length * m.tape.capacity * 256 ^ m.tape.capacity * (m.input.length + 1) := rfl

/-- Program counter, pointer, cells and the number of unread bytes. -/
private abbrev Configuration (m : Machine) : Type :=
  Fin m.length × Fin m.tape.capacity × (Fin m.tape.capacity → Fin 256) × Fin (m.input.length + 1)

private theorem card_configuration (m : Machine) :
    Fintype.card (Configuration m) = m.haltingBound := by
  simp only [Configuration, Fintype.card_prod, Fintype.card_fun, Fintype.card_fin, haltingBound_eq]
  ring

private theorem core_eq_of_configuration (soundA : Sound a) (soundB : Sound b)
    (code : a.code = b.code) (inside : a.pc < a.code.size) (pc : a.pc = b.pc)
    (tape : a.tape = b.tape) (input : a.input = b.input) : a.core = b.core := by
  have insideB : b.pc < b.code.size := by rwa [← code, ← pc]
  have loops : a.loops = b.loops := by
    rw [soundA.loops_eq inside, soundB.loops_eq insideB, code, pc]
  have haltedA : a.halted = false := soundA.running (by simp [current?_of_lt inside, inside])
  have haltedB : b.halted = false := soundB.running (by simp [current?_of_lt insideB, insideB])
  simp only [core, code, pc, loops, tape, input, haltedA, haltedB]

private theorem pc_lt (left : a.current? ≠ none) (code : a.code = m.code) : a.pc < m.length := by
  rw [Ne, current?_eq_none_iff, length, code] at left
  rw [length]
  omega

private theorem pointer_lt (capacity : a.tape.capacity = m.tape.capacity) :
    a.tape.pointer < m.tape.capacity := by
  rw [← capacity]
  exact a.tape.pointer_lt

private theorem unread_lt (input : a.input <:+ m.input) : a.input.length < m.input.length + 1 :=
  Nat.lt_succ_of_le input.length_le

private def configuration {m : Machine} (a : Machine) (left : a.current? ≠ none)
    (code : a.code = m.code) (capacity : a.tape.capacity = m.tape.capacity)
    (input : a.input <:+ m.input) : Configuration m :=
  (⟨a.pc, pc_lt left code⟩, ⟨a.tape.pointer, pointer_lt capacity⟩,
    fun k => (a.tape.cells.getD k 0).toFin, ⟨a.input.length, unread_lt input⟩)

private theorem tape_eq {s t : Tape} {n : Nat} (sizeS : s.capacity = n) (sizeT : t.capacity = n)
    (pointer : s.pointer = t.pointer)
    (cells : ∀ k : Fin n, (s.cells.getD k 0).toFin = (t.cells.getD k 0).toFin) : s = t := by
  obtain ⟨sCells, sPointer, sInside⟩ := s
  obtain ⟨tCells, tPointer, tInside⟩ := t
  obtain rfl : sPointer = tPointer := pointer
  have same : sCells = tCells := by
    apply Array.ext
    · exact sizeS.trans sizeT.symm
    · intro k inS inT
      have byte := UInt8.toFin_inj.mp (cells ⟨k, sizeS ▸ inS⟩)
      simpa [Array.getD, inS, inT] using byte
  subst same
  rfl

private theorem lt_of_current?_next (left : a.current? ≠ none) (more : a.next.current? ≠ none) :
    a.pc < a.code.size := by
  by_contra outside
  rw [Ne, current?_eq_none_iff, length] at left
  have last : a.pc = a.code.size := by omega
  have stop := Move.halt (current?_of_eq last)
  rw [stop.next_eq] at more
  exact more (current?_eq_none_iff.mpr le_rfl)

private theorem exists_core_eq
    (going : ∀ k ≤ m.haltingBound, (m.reset.after k).current? ≠ none) :
    ∃ i j, i < j ∧ j ≤ m.haltingBound ∧ (m.reset.after i).core = (m.reset.after j).core := by
  have code (k : Nat) : (m.reset.after k).code = m.code := code_after k m.reset
  have capacity (k : Nat) : (m.reset.after k).tape.capacity = m.tape.capacity := by
    rw [capacity_after]
    exact Tape.capacity_reset m.tape
  have input (k : Nat) : (m.reset.after k).input <:+ m.input := input_after_suffix k m.reset
  let place (k : Fin (m.haltingBound + 1)) : Configuration m :=
    configuration (m.reset.after k) (going k (by omega)) (code k) (capacity k) (input k)
  -- There are more moments than configurations, and the configuration decides the stack of loops.
  obtain ⟨i, j, ne, same⟩ := Fintype.exists_ne_map_eq_of_card_lt place
    (by rw [card_configuration, Fintype.card_fin]; exact Nat.lt_succ_self _)
  have agree (i j : Fin (m.haltingBound + 1)) (less : i < j) (same : place i = place j) :
      (m.reset.after i).core = (m.reset.after j).core := by
    simp only [place, configuration, Prod.mk.injEq, Fin.mk.injEq] at same
    obtain ⟨pc, pointer, cells, unread⟩ := same
    have suffix := List.suffix_of_suffix_length_le (input i) (input j) unread.le
    have inside := lt_of_current?_next (going i (by omega))
      (by rw [← after_succ]; exact going (i + 1) (by omega))
    exact core_eq_of_configuration ((Sound.reset m).after i) ((Sound.reset m).after j)
      ((code i).trans (code j).symm) inside pc
      (tape_eq (capacity i) (capacity j) pointer (congrFun cells)) (suffix.eq_of_length unread)
  rcases lt_or_gt_of_ne ne with less | more
  · exact ⟨i, j, less, by omega, agree i j less same⟩
  · exact ⟨j, i, more, by omega, agree j i more same.symm⟩

/-- A run that uses up its halting bound never ends. -/
theorem current?_ne_none_of_haltingBound
    (going : (m.reset.after m.haltingBound).current? ≠ none) (n : Nat) :
    (m.reset.after n).current? ≠ none := by
  have before (k : Nat) (le : k ≤ m.haltingBound) : (m.reset.after k).current? ≠ none := by
    intro stopped
    obtain ⟨d, bound⟩ := Nat.exists_eq_add_of_le le
    rw [bound, after_add, after_of_current?_eq_none stopped] at going
    exact going stopped
  obtain ⟨i, j, less, le, same⟩ := exists_core_eq before
  exact current?_ne_none_of_core_eq less same (fun k early => before k (by omega)) n

end Configurations

section Unlimited

theorem haltingBound_le (m : Machine) : m.haltingBound ≤ 2 ^ m.settlingRounds - 1 := by
  have rounds : 2 ^ m.settlingRounds = 2 ^ (m.length.log2 + 1) * 2 ^ (m.tape.capacity.log2 + 1) *
      256 ^ m.tape.capacity * 2 ^ ((m.input.length + 1).log2 + 1) := by
    rw [settlingRounds, show 256 = 2 ^ 8 from rfl, ← pow_mul, ← pow_add, ← pow_add, ← pow_add]
    congr 1
    omega
  have places : m.length * m.tape.capacity <
      2 ^ (m.length.log2 + 1) * 2 ^ (m.tape.capacity.log2 + 1) :=
    Nat.mul_lt_mul'' Nat.lt_log2_self Nat.lt_log2_self
  have tapes : m.length * m.tape.capacity * 256 ^ m.tape.capacity <
      2 ^ (m.length.log2 + 1) * 2 ^ (m.tape.capacity.log2 + 1) * 256 ^ m.tape.capacity :=
    Nat.mul_lt_mul_of_pos_right places (Nat.pow_pos (by decide))
  have all : m.haltingBound < 2 ^ m.settlingRounds := by
    rw [rounds, haltingBound_eq]
    exact Nat.mul_lt_mul'' tapes Nat.lt_log2_self
  omega

private theorem current?_ne_none_of_runToEnd (endless : m.runToEnd = none) (n : Nat) :
    (m.reset.after n).current? ≠ none := by
  have going := of_settle_eq_none (m := m.reset) rfl endless
  rw [Nat.mul_one] at going
  apply current?_ne_none_of_haltingBound
  intro stopped
  obtain ⟨d, total⟩ := Nat.exists_eq_add_of_le (haltingBound_le m)
  rw [total, after_add, after_of_current?_eq_none stopped] at going
  have finished := ((Sound.reset m).after m.haltingBound).finished_iff.mpr stopped
  rw [finished] at going
  contradiction

private theorem of_runToEnd_eq_some {last : Machine} (ended : m.runToEnd = some last) :
    last.current? = none ∧ ∃ n, last = m.reset.after n := by
  obtain ⟨finished, n, rfl⟩ := of_settle_eq_some rfl ended
  exact ⟨((Sound.reset m).after n).finished_iff.mp finished, n, rfl⟩

theorem run_none_eq_some_iff {outcome : Outcome} {last : Machine} :
    m.run none = some (outcome, last) ↔
      outcome = .halted ∧ last.current? = none ∧ ∃ n, last = m.reset.after n := by
  constructor
  · intro ran
    obtain ⟨found, ended, same⟩ := Option.map_eq_some_iff.mp ran
    obtain ⟨rfl, rfl⟩ := Prod.mk.inj same
    exact ⟨rfl, of_runToEnd_eq_some ended⟩
  · rintro ⟨rfl, stopped, n, rfl⟩
    cases ended : m.runToEnd with
    | none => exact absurd stopped (current?_ne_none_of_runToEnd ended n)
    | some found =>
      obtain ⟨stoppedToo, k, rfl⟩ := of_runToEnd_eq_some ended
      rw [run, ended, after_eq_after stopped stoppedToo]
      rfl

theorem run_none_eq_none_iff : m.run none = none ↔ ∀ n, (m.reset.after n).current? ≠ none := by
  constructor
  · intro endless
    exact current?_ne_none_of_runToEnd (Option.map_eq_none_iff.mp endless)
  · intro going
    cases ran : m.run none with
    | none => rfl
    | some result =>
      obtain ⟨-, stopped, n, same⟩ := run_none_eq_some_iff.mp ran
      exact absurd (same ▸ stopped) (going n)

end Unlimited

end TapeMachine.Machine
