import TapeMachine.Proofs.Failing
import TapeMachine.Proofs.Machine.Checked
import TapeMachine.Proofs.Machine.Move

set_option autoImplicit false

namespace TapeMachine

namespace Machine

/-- What a machine holds, in plain integers. -/
def checked (m : Machine) : Checked where
  program := m.program.toList
  pc := m.pc
  loops := m.loops.reverse.map Nat.cast
  capacity := m.tape.capacity
  cells := m.tape.cells.toList.map fun b => b.toNat
  pointer := m.tape.pointer
  input := m.input.map fun b => b.toNat
  output := m.output.toList.map fun b => b.toNat
  steps := m.steps
  halted := m.halted
  unmatched := m.unmatched

variable {m : Machine}

theorem length_program_checked (m : Machine) : (m.checked.program.length : Int) = m.length := by
  simp [checked, program, length]

section Access

private theorem entry_map {α β : Type} (breach : Int → Breach) (f : α → β) {entries : List α}
    {i : Nat}
    {a : α} (here : entries[i]? = some a) :
    Checked.entry breach (entries.map f) i = .ok (f a) := by
  have nonneg : ¬ (i : Int) < 0 := by omega
  rw [Checked.entry, if_neg nonneg, Int.toNat_natCast, List.getElem?_map, here]
  rfl

private theorem entry_program {program : Array Opcode} {op : Opcode} {i : Nat}
    (here : program[i]? = some op) : Checked.entry .program program.toList i = .ok op := by
  have listed : program.toList[i]? = some op := by rw [Array.getElem?_toList, here]
  have found := entry_map .program id listed
  rwa [List.map_id] at found

private theorem read_checked (m : Machine) : m.checked.read = .ok (m.tape.read.toNat : Int) := by
  have inside := m.tape.pointer_lt
  have here : m.tape.cells.toList[m.tape.pointer]? = some m.tape.read := by
    rw [Array.getElem?_toList, Array.getElem?_eq_getElem inside]
    rfl
  exact entry_map .cell (fun b => (b.toNat : Int)) here

theorem write_checked {n : Int} {tape : Tape} (stored : m.tape.store n = tape) :
    m.checked.write n = .ok { m with tape := tape }.checked := by
  subst stored
  have low : 0 ≤ n % 256 ∧ n % 256 < 256 := by omega
  have place : (0 : Int) ≤ m.checked.pointer ∧ m.checked.pointer < m.checked.cells.length := by
    have inside := m.tape.pointer_lt
    simp only [checked, List.length_map, Array.length_toList]
    omega
  have cells : m.checked.cells.set m.checked.pointer.toNat (n % 256) =
      { m with tape := m.tape.store n }.checked.cells := by
    rw [← toNat_lowByte]
    simp [checked, Tape.store, Tape.write, List.map_set]
  have size : (m.tape.store n).capacity = m.tape.capacity := Tape.capacity_write _ _
  rw [Checked.write, Checked.byte, if_pos low, ok_bind, Checked.replace, if_pos place, ok_bind,
    cells]
  simp only [checked, size]
  rfl

end Access

section Search

variable {program code : Array Opcode} {op : Opcode} {i : Nat}

private theorem closing?_of_getElem? (here : program[i]? = some op) (depth : Int) :
    Checked.closing? program.toList i depth =
      match op with
      | .loopStart => Checked.closing? program.toList (i + 1 : Nat) (depth + 1)
      | .loopEnd =>
        if depth = 1 then .ok (some (i : Int))
        else Checked.closing? program.toList (i + 1 : Nat) (depth - 1)
      | _ => Checked.closing? program.toList (i + 1 : Nat) depth := by
  have inside : (i : Int) < program.toList.length := by
    have bound := (Array.getElem?_eq_some_iff.mp here).1
    rw [Array.length_toList]
    omega
  rw [Checked.closing?, dif_pos inside, entry_program here, ok_bind]
  cases op <;> rfl

private theorem closing?_outside (outside : code.size ≤ i) (depth : Int) :
    Checked.closing? (code.push .halt).toList i depth = .ok none := by
  have past (j : Nat) (beyond : code.size < j) :
      Checked.closing? (code.push .halt).toList j depth = .ok none := by
    have far : ¬ (j : Int) < (code.push Opcode.halt).toList.length := by
      rw [Array.length_toList, Array.size_push]
      omega
    rw [Checked.closing?, dif_neg far]
    rfl
  rcases Nat.eq_or_lt_of_le outside with rfl | beyond
  · rw [closing?_of_getElem? (Array.getElem?_push_size)]
    exact past (code.size + 1) (Nat.lt_succ_self _)
  · exact past i beyond

private theorem getElem?_push (inside : i < code.size) (here : code[i] = op) :
    (code.push .halt)[i]? = some op := by
  rw [Array.getElem?_push_lt inside, here]

private theorem closing?_checked (code : Array Opcode) (i d : Nat) :
    Checked.closing? (code.push .halt).toList i (d + 1 : Nat) =
      .ok ((Brackets.closing? code i d).map Nat.cast) := by
  fun_induction Brackets.closing? code i d with
  | case1 i d inside here ih =>
    rw [closing?_of_getElem? (getElem?_push inside here), ← ih]
    rfl
  | case2 i inside here =>
    rw [closing?_of_getElem? (getElem?_push inside here)]
    rfl
  | case3 i inside here d ih =>
    have inner : ¬ ((d.succ + 1 : Nat) : Int) = 1 := by omega
    have left : ((d.succ + 1 : Nat) : Int) - 1 = (d + 1 : Nat) := by omega
    rw [closing?_of_getElem? (getElem?_push inside here)]
    simp only [if_neg inner, left, ih]
  | case4 i d inside start stop ih =>
    generalize here : code[i] = op at start stop
    rw [closing?_of_getElem? (getElem?_push inside here), ← ih]
    cases op with
    | loopStart => exact (start rfl).elim
    | loopEnd => exact (stop rfl).elim
    | _ => rfl
  | case5 i d outside => exact closing?_outside (by omega) _

end Search

section Execution

theorem resetTape_checked (m : Machine) :
    { m.checked with cells := List.replicate m.checked.capacity 0, pointer := 0 } =
      (m.mapTape Tape.reset).checked := by
  have zeros : List.replicate m.tape.capacity (0 : Int) =
      m.tape.reset.cells.toList.map fun b => (b.toNat : Int) := by
    simp [Tape.reset, Tape.blank, Tape.capacity]
  have size : m.tape.reset.capacity = m.tape.capacity := Tape.capacity_reset m.tape
  simp only [checked, mapTape, zeros, size]
  rfl

theorem reset_checked (m : Machine) : m.checked.reset = m.reset.checked :=
  resetTape_checked
    { m with
      pc := 0, loops := [], output := #[], steps := 0, halted := false, unmatched := 0 }

theorem moveLeft_checked (m : Machine) :
    m.checked.moveLeft = (m.mapTape Tape.moveLeft).checked := by
  have pointer : (if 0 < (m.tape.pointer : Int) then (m.tape.pointer : Int) - 1
      else m.tape.capacity - 1) = (m.tape.moveLeft.pointer : Int) := by
    have positive := m.tape.capacity_pos
    rw [Tape.pointer_moveLeft]
    split <;> split <;> omega
  exact congrArg (fun p => { m.checked with pointer := p }) pointer

theorem moveRight_checked (m : Machine) :
    m.checked.moveRight = (m.mapTape Tape.moveRight).checked := by
  have pointer : min ((m.tape.pointer : Int) + 1) (m.tape.capacity - 1) =
      (m.tape.moveRight.pointer : Int) := by
    have positive := m.tape.capacity_pos
    rw [Tape.pointer_moveRight]
    omega
  exact congrArg (fun p => { m.checked with pointer := p }) pointer

private theorem skipLoop_checked (m : Machine) : m.checked.skipLoop = .ok m.skipLoop.checked := by
  have search : Checked.closing? m.checked.program m.checked.pc 1 =
      .ok ((Brackets.closing? m.code m.pc 0).map Nat.cast) := closing?_checked m.code m.pc 0
  rw [Checked.skipLoop, search, ok_bind, skipLoop]
  cases Brackets.closing? m.code m.pc 0 with
  | some stop => rfl
  | none =>
    have last : (m.checked.program.length : Int) - 1 = m.code.size := by
      rw [length_program_checked, length]
      omega
    simp only [Option.map_none, last]
    rfl

private theorem cell_eq_zero_iff {b : UInt8} : (b.toNat : Int) = 0 ↔ b = 0 := by
  rw [← UInt8.toNat_inj]
  exact Int.natCast_eq_zero

private theorem lowByte_succ (b : UInt8) : lowByte (((b.toNat : Int) + 1) % 256) = b + 1 := by
  apply UInt8.toNat_inj.mp
  have value := toNat_lowByte (((b.toNat : Int) + 1) % 256)
  have sum : (b + 1).toNat = (b.toNat + 1) % 256 := UInt8.toNat_add b 1
  omega

private theorem lowByte_pred (b : UInt8) : lowByte (((b.toNat : Int) - 1) % 256) = b - 1 := by
  apply UInt8.toNat_inj.mp
  have value := toNat_lowByte (((b.toNat : Int) - 1) % 256)
  have difference : (b - 1).toNat = (256 - 1 + b.toNat) % 256 := UInt8.toNat_sub b 1
  have below := b.toNat_lt
  omega

private theorem loopEnd_checked (m : Machine) :
    m.checked.execute .loopEnd = .ok (m.execute .loopEnd).checked := by
  rw [Checked.execute]
  cases stack : m.loops with
  | nil =>
    have empty : m.checked.loops = [] := by rw [checked, stack]; rfl
    have ignored : m.execute .loopEnd = { m with unmatched := m.unmatched + 1 } := by
      rw [execute, stack]
    rw [if_pos empty, ignored]
    rfl
  | cons body outer =>
    have listed : m.checked.loops = outer.reverse.map Nat.cast ++ [(body : Int)] := by
      simp [checked, stack]
    have entered : m.checked.loops ≠ [] := by simp [listed]
    have last : Checked.entry .loop m.checked.loops (m.checked.loops.length - 1) =
        .ok (body : Int) := by
      have place : (m.checked.loops.length : Int) - 1 = outer.length := by simp [listed]
      rw [place]
      exact entry_map .loop Nat.cast (by simp [stack])
    have jumped : m.execute .loopEnd =
        if m.tape.read = 0 then { m with loops := outer } else { m with pc := body } := by
      rw [execute, stack]
    rw [if_neg entered, read_checked, ok_bind, last, ok_bind, jumped]
    by_cases zero : m.tape.read = 0
    · have popped : m.checked.loops.dropLast = outer.reverse.map Nat.cast := by
        rw [listed, List.dropLast_concat]
      rw [if_pos (cell_eq_zero_iff.mpr zero), if_pos zero, popped]
      rfl
    · rw [if_neg (mt cell_eq_zero_iff.mp zero), if_neg zero]
      rfl

theorem execute_checked (op : Opcode) (m : Machine) :
    m.checked.execute op = .ok (m.execute op).checked := by
  cases op with
  | nop => rfl
  | inc =>
    rw [Checked.execute, read_checked, ok_bind]
    exact write_checked (congrArg m.tape.write (lowByte_succ _))
  | dec =>
    rw [Checked.execute, read_checked, ok_bind]
    exact write_checked (congrArg m.tape.write (lowByte_pred _))
  | ptrLeft => rw [Checked.execute, moveLeft_checked]; rfl
  | ptrRight => rw [Checked.execute, moveRight_checked]; rfl
  | read =>
    rw [Checked.execute, execute]
    cases unread : m.input with
    | nil =>
      have empty : m.checked.input = [] := by rw [checked, unread]; rfl
      rw [empty]
      exact write_checked rfl
    | cons b rest =>
      have waiting : m.checked.input = (b.toNat : Int) :: rest.map fun b => (b.toNat : Int) := by
        rw [checked, unread]; rfl
      rw [waiting]
      exact write_checked (m := { m with input := rest }) (congrArg m.tape.write (lowByte_toNat b))
  | write =>
    rw [Checked.execute, read_checked, ok_bind]
    have emitted : m.checked.output ++ [(m.tape.read.toNat : Int)] =
        (m.output.push m.tape.read).toList.map fun b => (b.toNat : Int) := by
      simp [checked]
    rw [emitted]
    rfl
  | loopStart =>
    rw [Checked.execute, read_checked, ok_bind, execute]
    by_cases zero : m.tape.read = 0
    · rw [if_pos (cell_eq_zero_iff.mpr zero), if_pos zero, skipLoop_checked]
    · have pushed : m.checked.loops ++ [m.checked.pc] =
          (m.pc :: m.loops).reverse.map Nat.cast := by
        simp [checked]
      rw [if_neg (mt cell_eq_zero_iff.mp zero), if_neg zero, pushed]
      rfl
  | loopEnd => exact loopEnd_checked m
  | halt =>
    rw [Checked.execute, length_program_checked]
    rfl

end Execution

section Steps

theorem fetch_checked (m : Machine) :
    m.checked.fetch = .ok (m.fetch.map fun result => (result.1, result.2.checked)) := by
  have size := length_program_checked m
  rw [Checked.fetch, fetch]
  cases here : m.current? with
  | none =>
    have past : (m.checked.program.length : Int) ≤ m.checked.pc := by
      rw [size]
      exact Int.ofNat_le.mpr (current?_eq_none_iff.mp here)
    rw [if_pos past]
    rfl
  | some op =>
    have inside : ¬ (m.checked.program.length : Int) ≤ m.checked.pc := by
      rw [size]
      intro past
      exact Option.some_ne_none op (here ▸ current?_eq_none_iff.mpr (Int.ofNat_le.mp past))
    have found : Checked.entry .program m.checked.program m.checked.pc = .ok op :=
      entry_program (current?_eq m ▸ here)
    rw [if_neg inside, found, ok_bind]
    rfl

theorem step_checked (m : Machine) :
    m.checked.step = .ok (m.step.map fun result => (result.1, result.2.checked)) := by
  rw [Checked.step, fetch_checked, ok_bind, fetch, step]
  cases m.current? with
  | none => rfl
  | some op =>
    simp only [Option.map_some]
    rw [execute_checked, ok_bind, read_checked, ok_bind]
    rfl

private theorem advance_checked (n : Nat) (m : Machine) :
    m.checked.advance n = .ok (m.advance n).checked := by
  induction n generalizing m with
  | zero => rfl
  | succ n ih =>
    rw [Checked.advance, step_checked, ok_bind, step, advance]
    cases m.current? with
    | none => rfl
    | some op =>
      simp only [Option.map_some]
      by_cases stops : (m.perform op).halted
      · rw [if_pos stops, if_pos (show (m.perform op).checked.halted = true from stops)]
        rfl
      · rw [if_neg stops, if_neg (show ¬ (m.perform op).checked.halted = true from stops)]
        exact ih (m.perform op)

theorem run_checked (n : Int) (m : Machine) :
    m.checked.run n = .ok ((m.runWithin n.toNat).1, (m.runWithin n.toNat).2.checked) := by
  have ended (last : Machine) :
      (last.checked.halted = true ∨ (last.checked.program.length : Int) ≤ last.checked.pc) ↔
        last.finished = true := by
    rw [length_program_checked, finished, Bool.or_eq_true, decide_eq_true_iff]
    exact or_congr Iff.rfl Int.ofNat_le
  rw [Checked.run, reset_checked, advance_checked, ok_bind, runWithin]
  simp only [ended]
  rfl

end Steps

end Machine

end TapeMachine
