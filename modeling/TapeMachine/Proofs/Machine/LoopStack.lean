import TapeMachine.Proofs.Brackets.Matching
import TapeMachine.Proofs.Machine.Reachable

/-!
The stack of entered loops. Main statement: in front of the stop mark it holds exactly the bodies of
the loops that a scan of the program finds open at the program counter, and it is never deeper than
the program is nested.
-/

set_option autoImplicit false

namespace TapeMachine

/-- Where the bodies of the loops begin that are open in front of position `i`. -/
def Brackets.bodies (code : Array Opcode) (i : Nat) : List Nat := (opened code i).map (· + 1)

namespace Machine

/-- The program counter, the halted flag and the stack of loops belong together. -/
structure Sound (m : Machine) : Prop where
  halted_iff : m.halted = true ↔ m.current? = none
  pc_le : m.pc ≤ m.length
  /-- In front of the stop mark the stack stems from the place where the machine stands. -/
  source : ∃ i ≤ m.code.size, m.loops = Brackets.bodies m.code i ∧
    (m.pc < m.code.size → i = m.pc)

variable {m m' : Machine}

namespace Sound

theorem loops_eq (sound : Sound m) (inside : m.pc < m.code.size) :
    m.loops = Brackets.bodies m.code m.pc := by
  obtain ⟨i, -, same, here⟩ := sound.source
  rw [same, here inside]

theorem running (sound : Sound m) (left : m.current? ≠ none) : m.halted = false := by
  rw [Bool.eq_false_iff]
  exact fun halted => left (sound.halted_iff.mp halted)

theorem finished_iff (sound : Sound m) : m.finished = true ↔ m.current? = none := by
  rw [finished, Bool.or_eq_true, decide_eq_true_iff, sound.halted_iff, current?_eq_none_iff,
    or_self]

theorem reset (m : Machine) : Sound m.reset where
  halted_iff := by
    rw [current?_eq_none_iff]
    exact ⟨fun halted => absurd halted Bool.false_ne_true,
      fun past => absurd past (Nat.not_succ_le_zero _)⟩
  pc_le := Nat.zero_le _
  source := ⟨0, Nat.zero_le _, rfl, fun _ => rfl⟩

private theorem of_running {i : Nat} (going : m.halted = false) (inside : m.pc ≤ m.code.size)
    (le : i ≤ m.code.size) (same : m.loops = Brackets.bodies m.code i)
    (here : m.pc < m.code.size → i = m.pc) : Sound m where
  halted_iff := by
    have left : ¬ m.length ≤ m.pc := by rw [length]; omega
    rw [going, current?_eq_none_iff]
    exact ⟨fun halted => absurd halted Bool.false_ne_true, fun past => absurd past left⟩
  pc_le := by rw [length]; omega
  source := ⟨i, le, same, here⟩

theorem move (sound : Sound m) (move : Move m m') : Sound m' := by
  have going : m.halted = false := sound.running move.running
  cases move with
  | plain p tape input output here effect =>
    have inside := lt_of_current? here p.opcode_ne_halt
    have start := getElem?_of_current? here p.opcode_ne_halt
    refine of_running going inside inside ?_ (fun _ => rfl)
    have same : Brackets.opened m.code (m.pc + 1) = Brackets.opened m.code m.pc :=
      Brackets.opened_other (by simp [start, p.opcode_ne_loopStart])
        (by simp [start, p.opcode_ne_loopEnd])
    rw [Brackets.bodies, same]
    exact sound.loops_eq inside
  | enter here nonzero =>
    have inside := lt_of_current? here (by decide)
    have start := getElem?_of_current? here (by decide)
    refine of_running going inside inside ?_ (fun _ => rfl)
    rw [Brackets.bodies, Brackets.opened_start start, List.map_cons, sound.loops_eq inside]
    rfl
  | skip stop here zero found =>
    have inside := lt_of_current? here (by decide)
    have start := getElem?_of_current? here (by decide)
    have before : Brackets.opened m.code (m.pc + 1) =
        [] ++ m.pc :: Brackets.opened m.code m.pc := Brackets.opened_start start
    obtain ⟨-, ends, closed⟩ := Brackets.of_closing?_eq_some before found
    have within : stop < m.code.size := (Array.getElem?_eq_some_iff.mp ends).1
    refine of_running going within within ?_ (fun _ => rfl)
    rw [Brackets.bodies, Brackets.opened_end ends, closed, List.tail_cons]
    exact sound.loops_eq inside
  | abandon here zero missing =>
    have inside := lt_of_current? here (by decide)
    exact of_running going le_rfl inside.le (sound.loops_eq inside)
      (fun less => absurd less (Nat.lt_irrefl _))
  | ignore here entered =>
    have inside := lt_of_current? here (by decide)
    have ends := getElem?_of_current? here (by decide)
    refine of_running going inside inside ?_ (fun _ => rfl)
    rw [Brackets.bodies, Brackets.opened_end ends, List.map_tail]
    have empty := sound.loops_eq inside
    rw [entered, Brackets.bodies] at empty
    rw [← empty]
    exact entered
  | again body outer here entered nonzero =>
    have inside := lt_of_current? here (by decide)
    have stack := sound.loops_eq inside
    rw [entered, Brackets.bodies] at stack
    obtain ⟨start, starts, within, rfl, rfl⟩ := List.map_eq_cons_iff.mp stack.symm
    obtain ⟨before, begins, same⟩ := Brackets.of_opened_eq_cons within
    have bodyInside : start + 1 ≤ m.code.size := by omega
    refine of_running going bodyInside bodyInside ?_ (fun _ => rfl)
    rw [Brackets.bodies, Brackets.opened_start begins, same]
    exact entered
  | leave body outer here entered zero =>
    have inside := lt_of_current? here (by decide)
    have ends := getElem?_of_current? here (by decide)
    refine of_running going inside inside ?_ (fun _ => rfl)
    have stack := sound.loops_eq inside
    rw [entered, Brackets.bodies] at stack
    rw [Brackets.bodies, Brackets.opened_end ends, List.map_tail, ← stack]
    rfl
  | halt here =>
    obtain ⟨i, le, same, -⟩ := sound.source
    exact ⟨iff_of_true rfl (current?_eq_none_iff.mpr le_rfl), le_rfl, i, le, same,
      fun less => absurd less Nat.not_succ_lt_self⟩

theorem after (sound : Sound m) (n : Nat) : Sound (m.after n) :=
  after_induction (fun step before => before.move step) sound n

theorem change (sound : Sound m) (change : Change m m') : Sound m' := by
  cases change with
  | none => exact sound
  | restart code input => exact reset _
  | step => exact sound.after 1
  | run n => exact (reset m).after n
  | tape tape same => exact ⟨sound.halted_iff, sound.pc_le, sound.source⟩

theorem of_reachable (reachable : Reachable m) : Sound m := by
  induction reachable with
  | restart kind accepted =>
    obtain ⟨before, same⟩ := exists_reset_of_restarts kind accepted
    rw [same]
    exact reset before
  | operate kind _ sound => exact sound.change (change_apply kind)

theorem pairwise_loops (sound : Sound m) : m.loops.Pairwise (fun a b => b < a) := by
  obtain ⟨i, -, same, -⟩ := sound.source
  rw [same, Brackets.bodies, List.pairwise_map]
  exact Brackets.opened_pairwise.imp fun less => Nat.succ_lt_succ less

private theorem behind_start (sound : Sound m) {body : Nat} (entered : body ∈ m.loops) :
    ∃ start, body = start + 1 ∧ m.code[start]? = some .loopStart := by
  obtain ⟨i, -, same, -⟩ := sound.source
  rw [same, Brackets.bodies] at entered
  obtain ⟨start, within, rfl⟩ := List.mem_map.mp entered
  obtain ⟨front, back, split⟩ := List.append_of_mem within
  exact ⟨start, rfl, (Brackets.of_suffix_opened ⟨front, split.symm⟩).2.1⟩

theorem length_loops_le (sound : Sound m) : m.loops.length ≤ Brackets.nesting m.code := by
  obtain ⟨i, le, same, -⟩ := sound.source
  rw [same, Brackets.bodies, List.length_map]
  exact Brackets.length_opened_le le

end Sound

/--
In front of the stop mark the stack, read from the outermost loop on, holds the places behind the
loop starts that are open at the program counter. Its entries increase, each stands behind a loop
start, the program counter alone decides it, and nesting bounds its depth wherever the machine is.
-/
theorem loops_of_reachable (reachable : Reachable m) :
    (m.pc < m.code.size →
      m.loops.reverse = (Brackets.opened m.code m.pc).reverse.map (· + 1)) ∧
    m.loops.reverse.Pairwise (· < ·) ∧
    (∀ body ∈ m.loops, ∃ start, body = start + 1 ∧ m.code[start]? = some .loopStart) ∧
    (∀ other, Reachable other → other.code = m.code → other.pc = m.pc →
      m.pc < m.code.size → other.loops = m.loops) ∧
    m.loops.length ≤ Brackets.nesting m.code := by
  have sound := Sound.of_reachable reachable
  refine ⟨?_, ?_, fun body entered => sound.behind_start entered, ?_, sound.length_loops_le⟩
  · intro inside
    rw [sound.loops_eq inside, Brackets.bodies, List.map_reverse]
  · rw [List.pairwise_reverse]
    exact sound.pairwise_loops
  · intro other reached code pc inside
    have soundOther := Sound.of_reachable reached
    rw [sound.loops_eq inside, soundOther.loops_eq (by rwa [code, pc]), code, pc]

theorem loops_of_reachable_unclosed :
    let loaded := ((Operation.loadCodes (.list [.int 1, .int 7, .int 7, .int 0])).apply
      (new (Tape.blank 1 Nat.one_pos))).2
    let entered := (Operation.step.apply (Operation.step.apply (Operation.step.apply
      loaded).2).2).2
    Reachable entered ∧ entered.pc = 3 ∧ entered.loops.reverse = [1, 2].map (· + 1) ∧
      entered.loops.length ≤ Brackets.nesting entered.code := by
  intro loaded entered
  have start : Reachable loaded := .restart trivial rfl
  have reachable : Reachable entered :=
    .operate trivial (.operate trivial (.operate trivial start))
  have pc : entered.pc = 3 := by decide +kernel
  have inside : entered.pc < entered.code.size := by decide +kernel
  have opened : Brackets.opened entered.code entered.pc = [2, 1] := by decide +kernel
  obtain ⟨stack, -, -, -, depth⟩ := loops_of_reachable reachable
  have loops := stack inside
  rw [opened] at loops
  exact ⟨reachable, pc, loops, depth⟩

end Machine

end TapeMachine
