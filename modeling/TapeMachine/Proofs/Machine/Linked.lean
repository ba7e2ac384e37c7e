import Mathlib.Logic.Function.Iterate
import TapeMachine.Proofs.Machine.LoopStack

/-!
A machine without a stack: it looks up the partner of a bracket in a table that is made once, when
the program is loaded. Main statement: it goes through the same states as the machine that keeps a
stack of the loops it has entered.
-/

set_option autoImplicit false

namespace TapeMachine

/-- The state of a machine that has a table of loops in place of a stack. -/
structure Linked where
  /-- The instructions with the stop mark at the end. -/
  program : Array Opcode
  /-- The start and the end of every loop that is closed. -/
  loops : List (Nat × Nat)
  pc : Nat
  contents : Contents
  steps : Nat
  halted : Bool
  unmatched : Nat

namespace Linked

/-- A machine with the given instructions, a tape of zeros and input. -/
def load (ops : List Opcode) (capacity : Nat) (input : List UInt8) : Linked where
  program := ops.toArray.push .halt
  loops := Brackets.loops ops.toArray
  pc := 0
  contents := .initial capacity input
  steps := 0
  halted := false
  unmatched := 0

def work (p : Plain) (l : Linked) : Linked :=
  { l with pc := l.pc + 1, contents := p.effect l.contents, steps := l.steps + 1 }

def jump (target : Nat) (l : Linked) : Linked := { l with pc := target, steps := l.steps + 1 }

def next (l : Linked) : Linked :=
  match l.program[l.pc]? with
  | none => l
  | some .nop => l.work .nop
  | some .inc => l.work .inc
  | some .dec => l.work .dec
  | some .ptrLeft => l.work .ptrLeft
  | some .ptrRight => l.work .ptrRight
  | some .read => l.work .read
  | some .write => l.work .write
  | some .loopStart =>
    if l.contents.cell = 0 then
      match Brackets.stopOf? l.loops l.pc with
      | some stop => l.jump (stop + 1)
      | none => l.jump (l.program.size - 1)
    else l.jump (l.pc + 1)
  | some .loopEnd =>
    match Brackets.startOf? l.loops l.pc with
    | some start => l.jump (if l.contents.cell = 0 then l.pc + 1 else start + 1)
    | none => { l.jump (l.pc + 1) with unmatched := l.unmatched + 1 }
  | some .halt => { l.jump l.program.size with halted := true }

private theorem next_plain {l : Linked} (p : Plain) (here : l.program[l.pc]? = some p.opcode) :
    l.next = l.work p := by
  cases p <;> simp only [Plain.opcode] at here <;> rw [next, here]

end Linked

namespace Machine

def linked (m : Machine) : Linked where
  program := m.program
  loops := Brackets.loops m.code
  pc := m.pc
  contents := m.contents
  steps := m.steps
  halted := m.halted
  unmatched := m.unmatched

variable {m m' : Machine}

private theorem getElem?_linked {op : Opcode} (here : m.current? = some op) :
    m.linked.program[m.linked.pc]? = some op := by
  rw [← here, current?_eq]
  rfl

private theorem startOf?_linked {body : Nat} {outer : List Nat} (sound : Sound m)
    (here : m.current? = some .loopEnd) (entered : m.loops = body :: outer) :
    ∃ start, Brackets.startOf? m.linked.loops m.linked.pc = some start ∧ start + 1 = body := by
  have stack := sound.loops_eq (lt_of_current? here (by decide))
  rw [entered, Brackets.bodies] at stack
  obtain ⟨start, starts, opened, top, -⟩ := List.map_eq_cons_iff.mp stack.symm
  have head := Brackets.startOf?_eq_head? (getElem?_of_current? here (by decide))
  rw [opened] at head
  exact ⟨start, head, top⟩

private theorem linked_move (sound : Sound m) (move : Move m m') : m'.linked = m.linked.next := by
  cases move with
  | plain p tape input output here effect =>
    rw [contents] at effect
    rw [Linked.next_plain p (getElem?_linked here)]
    simp only [linked, Linked.work, contents, effect]
    rfl
  | enter here nonzero =>
    have cell : m.linked.contents.cell ≠ 0 := mt m.cell_contents_eq_zero.mp nonzero
    rw [Linked.next, getElem?_linked here]
    simp only [if_neg cell]
    rfl
  | skip stop here zero found =>
    have cell : m.linked.contents.cell = 0 := m.cell_contents_eq_zero.mpr zero
    have partner : Brackets.stopOf? m.linked.loops m.linked.pc = some stop :=
      (Brackets.stopOf?_eq_closing? (getElem?_of_current? here (by decide))).trans found
    rw [Linked.next, getElem?_linked here]
    simp only [if_pos cell, partner]
    rfl
  | abandon here zero missing =>
    have cell : m.linked.contents.cell = 0 := m.cell_contents_eq_zero.mpr zero
    have partner : Brackets.stopOf? m.linked.loops m.linked.pc = none :=
      (Brackets.stopOf?_eq_closing? (getElem?_of_current? here (by decide))).trans missing
    have last : m.linked.program.size - 1 = m.code.size := by
      simp [linked, program]
    rw [Linked.next, getElem?_linked here]
    simp only [if_pos cell, partner, last]
    rfl
  | ignore here entered =>
    have stack := sound.loops_eq (lt_of_current? here (by decide))
    rw [entered, Brackets.bodies] at stack
    have partner : Brackets.startOf? m.linked.loops m.linked.pc = none := by
      refine (Brackets.startOf?_eq_head? (getElem?_of_current? here (by decide))).trans ?_
      rw [List.head?_eq_none_iff, ← List.map_eq_nil_iff]
      exact stack.symm
    rw [Linked.next, getElem?_linked here]
    simp only [partner]
    rfl
  | again body outer here entered nonzero =>
    have cell : m.linked.contents.cell ≠ 0 := mt m.cell_contents_eq_zero.mp nonzero
    obtain ⟨start, partner, rfl⟩ := startOf?_linked sound here entered
    rw [Linked.next, getElem?_linked here]
    simp only [partner, if_neg cell]
    rfl
  | leave body outer here entered zero =>
    have cell : m.linked.contents.cell = 0 := m.cell_contents_eq_zero.mpr zero
    obtain ⟨start, partner, rfl⟩ := startOf?_linked sound here entered
    rw [Linked.next, getElem?_linked here]
    simp only [partner, if_pos cell]
    rfl
  | halt here =>
    have size : m.linked.program.size = m.length := by
      simp [linked, program, length]
    rw [Linked.next, getElem?_linked here]
    simp only [size]
    rfl

theorem linked_next (sound : Sound m) : m.next.linked = m.linked.next := by
  by_cases stopped : m.current? = none
  · have beyond : m.linked.program[m.linked.pc]? = none := by
      rw [← stopped, current?_eq]
      rfl
    rw [next_of_current?_eq_none stopped, Linked.next, beyond]
  · exact linked_move sound (move_next stopped)

theorem linked_after (sound : Sound m) (n : Nat) :
    (m.after n).linked = Linked.next^[n] m.linked := by
  induction n with
  | zero => rfl
  | succ n ih => rw [after_succ, linked_next (sound.after n), ih, Function.iterate_succ_apply']

/-- A machine with a stack and one with a table agree in all that both of them have. -/
structure Agrees (m : Machine) (l : Linked) : Prop where
  pc : m.pc = l.pc
  cells : m.tape.cells.toList.map UInt8.toNat = l.contents.cells
  pointer : m.tape.pointer = l.contents.pointer
  output : m.output.toList.map UInt8.toNat = l.contents.output
  input : m.input.map UInt8.toNat = l.contents.input
  steps : m.steps = l.steps
  halted : m.halted = l.halted
  unmatched : m.unmatched = l.unmatched

private theorem agrees_after_reset (m : Machine) (n : Nat) :
    Agrees (m.reset.after n)
      (Linked.next^[n] (Linked.load m.code.toList m.tape.capacity m.input)) := by
  have start : m.reset.linked = Linked.load m.code.toList m.tape.capacity m.input := by
    rw [linked, contents_reset, Linked.load, Array.toArray_toList]
    rfl
  rw [← start, ← linked_after (Sound.reset m)]
  exact ⟨rfl, rfl, rfl, rfl, rfl, rfl, rfl, rfl⟩

/--
Whatever is loaded, program and input in either order, as many steps as one likes lead both
machines to states that agree.
-/
theorem agrees_after (m : Machine) (ops : List Opcode) (input : List UInt8) (n : Nat) :
    Agrees (((m.load ops).feed input).after n)
        (Linked.next^[n] (Linked.load ops m.tape.capacity input)) ∧
      Agrees (((m.feed input).load ops).after n)
        (Linked.next^[n] (Linked.load ops m.tape.capacity input)) := by
  constructor
  · have agrees := agrees_after_reset { m.load ops with input := input } n
    rwa [show (m.load ops).tape.capacity = m.tape.capacity from Tape.capacity_reset _] at agrees
  · have agrees := agrees_after_reset { m.feed input with code := ops.toArray } n
    rwa [show (m.feed input).tape.capacity = m.tape.capacity from Tape.capacity_reset _] at agrees

end Machine

end TapeMachine
