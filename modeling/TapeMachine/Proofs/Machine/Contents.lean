import TapeMachine.Machine

set_option autoImplicit false

namespace TapeMachine

/-- The instructions that neither steer nor stop the machine. -/
inductive Plain
  | nop
  | inc
  | dec
  | ptrLeft
  | ptrRight
  | read
  | write
  deriving DecidableEq

def Plain.opcode : Plain → Opcode
  | nop => .nop
  | inc => .inc
  | dec => .dec
  | ptrLeft => .ptrLeft
  | ptrRight => .ptrRight
  | read => .read
  | write => .write

def Opcode.plain? : Opcode → Option Plain
  | .nop => some .nop
  | .inc => some .inc
  | .dec => some .dec
  | .ptrLeft => some .ptrLeft
  | .ptrRight => some .ptrRight
  | .read => some .read
  | .write => some .write
  | .loopStart => none
  | .loopEnd => none
  | .halt => none

theorem Opcode.eq_opcode_of_plain? {op : Opcode} {p : Plain} (h : op.plain? = some p) :
    op = p.opcode := by
  cases op <;> cases h <;> rfl

/-- The numbers that a machine works on. -/
@[ext] structure Contents where
  cells : List Nat
  pointer : Nat
  input : List Nat
  output : List Nat
  deriving DecidableEq

namespace Contents

def cell (c : Contents) : Nat := c.cells.getD c.pointer 0

def put (n : Nat) (c : Contents) : Contents := { c with cells := c.cells.set c.pointer n }

/-- Cells of zeros with the pointer on the first one, the given input and no output. -/
def initial (capacity : Nat) (input : List UInt8) : Contents where
  cells := List.replicate capacity 0
  pointer := 0
  input := input.map UInt8.toNat
  output := []

def of (tape : Tape) (input : List UInt8) (output : Array UInt8) : Contents where
  cells := tape.cells.toList.map UInt8.toNat
  pointer := tape.pointer
  input := input.map UInt8.toNat
  output := output.toList.map UInt8.toNat

end Contents

/--
The meaning of a plain instruction: numbers are counted modulo 256, the pointer wraps on the left
and stops on the right, and where no input is left a zero is read.
-/
def Plain.effect : Plain → Contents → Contents
  | nop, c => c
  | inc, c => c.put ((c.cell + 1) % 256)
  | dec, c => c.put ((c.cell + 255) % 256)
  | ptrLeft, c => { c with pointer := if c.pointer = 0 then c.cells.length - 1 else c.pointer - 1 }
  | ptrRight, c => { c with pointer := min (c.pointer + 1) (c.cells.length - 1) }
  | read, c =>
    match c.input with
    | [] => c.put 0
    | b :: rest => { c with input := rest }.put b
  | write, c => { c with output := c.output ++ [c.cell] }

namespace Plain

theorem opcode_ne_loopStart (p : Plain) : p.opcode ≠ .loopStart := by
  cases p <;> decide

theorem opcode_ne_loopEnd (p : Plain) : p.opcode ≠ .loopEnd := by
  cases p <;> decide

theorem opcode_ne_halt (p : Plain) : p.opcode ≠ .halt := by
  cases p <;> decide

theorem length_cells_effect (p : Plain) (c : Contents) :
    (p.effect c).cells.length = c.cells.length := by
  cases p with
  | read => rw [effect]; split <;> simp [Contents.put]
  | _ => simp [effect, Contents.put]

theorem input_effect_suffix (p : Plain) (c : Contents) : (p.effect c).input <:+ c.input := by
  cases p with
  | read =>
    rw [effect]
    split
    · exact List.suffix_refl _
    · next b rest unread => exact unread ▸ List.suffix_cons b rest
  | _ => exact List.suffix_refl _

theorem output_prefix_effect (p : Plain) (c : Contents) : c.output <+: (p.effect c).output := by
  cases p with
  | read =>
    rw [effect]
    split <;> exact List.prefix_refl _
  | write => exact List.prefix_append _ _
  | _ => exact List.prefix_refl _

end Plain

namespace Contents

variable {tape : Tape} {input : List UInt8} {output : Array UInt8}

@[simp] theorem cells_of : (of tape input output).cells = tape.cells.toList.map UInt8.toNat := rfl

private theorem cell_of : (of tape input output).cell = tape.read.toNat := by
  obtain ⟨cells, pointer, inside⟩ := tape
  simp [cell, of, Tape.read, inside]

private theorem put_of (b : UInt8) :
    (of tape input output).put b.toNat = of (tape.write b) input output := by
  obtain ⟨cells, pointer, inside⟩ := tape
  simp [put, of, Tape.write, List.map_set]

theorem toNat_injective {xs ys : List UInt8}
    (same : xs.map UInt8.toNat = ys.map UInt8.toNat) : xs = ys :=
  (List.map_inj_right fun _ _ => UInt8.toNat_inj.mp).mp same

theorem of_suffix_toNat {xs ys : List UInt8}
    (h : xs.map UInt8.toNat <:+ ys.map UInt8.toNat) : xs <:+ ys := by
  obtain ⟨front, split⟩ := h
  obtain ⟨before, rest, rfl, -, same⟩ := List.map_eq_append_iff.mp split.symm
  exact ⟨before, by rw [toNat_injective same]⟩

theorem of_injective {tape' : Tape} {input' : List UInt8} {output' : Array UInt8}
    (h : of tape input output = of tape' input' output') :
    tape = tape' ∧ input = input' ∧ output = output' := by
  obtain ⟨cells, pointer, inside⟩ := tape
  obtain ⟨cells', pointer', inside'⟩ := tape'
  simp only [of, Contents.mk.injEq] at h
  obtain ⟨sameCells, rfl, sameInput, sameOutput⟩ := h
  obtain rfl := Array.toList_inj.mp (toNat_injective sameCells)
  exact ⟨rfl, toNat_injective sameInput, Array.toList_inj.mp (toNat_injective sameOutput)⟩

end Contents

namespace Machine

def contents (m : Machine) : Contents := .of m.tape m.input m.output

theorem cell_contents (m : Machine) : m.contents.cell = m.tape.read.toNat := Contents.cell_of

theorem cell_contents_eq_zero (m : Machine) : m.contents.cell = 0 ↔ m.tape.read = 0 := by
  rw [cell_contents, ← UInt8.toNat_inj]
  rfl

theorem contents_reset (m : Machine) :
    m.reset.contents = .initial m.tape.capacity m.input := by
  simp [contents, reset, Tape.reset, Tape.blank, Contents.of, Contents.initial, Tape.capacity]

theorem execute_plain (p : Plain) (m : Machine) :
    ∃ tape input output, Contents.of tape input output = p.effect m.contents ∧
      m.execute p.opcode = { m with tape := tape, input := input, output := output } := by
  cases p with
  | nop => exact ⟨m.tape, m.input, m.output, rfl, rfl⟩
  | inc =>
    refine ⟨m.tape.write (m.tape.read + 1), m.input, m.output, ?_, rfl⟩
    rw [← Contents.put_of]
    simp [Plain.effect, contents, Contents.cell_of]
  | dec =>
    refine ⟨m.tape.write (m.tape.read - 1), m.input, m.output, ?_, rfl⟩
    rw [← Contents.put_of]
    simp [Plain.effect, contents, Contents.cell_of, UInt8.toNat_sub, Nat.add_comm]
  | ptrLeft =>
    refine ⟨m.tape.moveLeft, m.input, m.output, ?_, rfl⟩
    simp [Plain.effect, contents, Contents.of, Tape.moveLeft]
  | ptrRight =>
    refine ⟨m.tape.moveRight, m.input, m.output, ?_, rfl⟩
    simp [Plain.effect, contents, Contents.of, Tape.moveRight]
  | read =>
    obtain ⟨code, pc, loops, tape, input, output, steps, halted, unmatched⟩ := m
    cases input with
    | nil => exact ⟨tape.write 0, [], output, (Contents.put_of 0).symm, rfl⟩
    | cons b rest => exact ⟨tape.write b, rest, output, (Contents.put_of b).symm, rfl⟩
  | write =>
    refine ⟨m.tape, m.input, m.output.push m.tape.read, ?_, rfl⟩
    simp only [Plain.effect, cell_contents]
    simp [contents, Contents.of]

end Machine

end TapeMachine
