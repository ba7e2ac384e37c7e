import TapeMachine.Byte

set_option autoImplicit false

namespace TapeMachine

/-- Byte cells with a pointer that always stands on one of them. -/
structure Tape where
  cells : Array UInt8
  pointer : Nat
  pointer_lt : pointer < cells.size
  deriving DecidableEq

namespace Tape

def capacity (t : Tape) : Nat := t.cells.size

def blank (capacity : Nat) (positive : 0 < capacity) : Tape where
  cells := Array.replicate capacity 0
  pointer := 0
  pointer_lt := by simpa using positive

def read : Tape → UInt8
  | ⟨cells, pointer, _⟩ => cells[pointer]

def write (b : UInt8) : Tape → Tape
  | ⟨cells, pointer, h⟩ => ⟨cells.set pointer b h, pointer, by simpa using h⟩

def modify (f : UInt8 → UInt8) : Tape → Tape
  | ⟨cells, pointer, h⟩ =>
    let b := cells[pointer]
    ⟨cells.set pointer (f b) h, pointer, by simpa using h⟩

def store (n : Int) (t : Tape) : Tape := t.write (lowByte n)

/-- Move the pointer one cell to the left, from the first cell to the last. -/
def moveLeft : Tape → Tape
  | ⟨cells, pointer, h⟩ =>
    ⟨cells, if pointer = 0 then cells.size - 1 else pointer - 1, by split <;> omega⟩

/-- Move the pointer one cell to the right, but never past the last cell. -/
def moveRight : Tape → Tape
  | ⟨cells, pointer, h⟩ => ⟨cells, min (pointer + 1) (cells.size - 1), by omega⟩

def reset (t : Tape) : Tape := blank t.cells.size (Nat.zero_lt_of_lt t.pointer_lt)

theorem capacity_pos (t : Tape) : 0 < t.capacity := Nat.zero_lt_of_lt t.pointer_lt

@[simp] theorem capacity_blank (n : Nat) (h : 0 < n) : (blank n h).capacity = n := by
  simp [capacity, blank]

@[simp] theorem capacity_write (b : UInt8) (t : Tape) : (t.write b).capacity = t.capacity := by
  simp [capacity, write]

@[simp] theorem capacity_moveLeft (t : Tape) : t.moveLeft.capacity = t.capacity := rfl

@[simp] theorem capacity_moveRight (t : Tape) : t.moveRight.capacity = t.capacity := rfl

@[simp] theorem capacity_reset (t : Tape) : t.reset.capacity = t.capacity := by
  simp [reset, capacity, blank]

theorem pointer_moveLeft (t : Tape) :
    t.moveLeft.pointer = if t.pointer = 0 then t.capacity - 1 else t.pointer - 1 := rfl

theorem pointer_moveRight (t : Tape) :
    t.moveRight.pointer = min (t.pointer + 1) (t.capacity - 1) := rfl

@[simp] theorem read_write (b : UInt8) (t : Tape) : (t.write b).read = b := by
  simp [read, write]

end Tape

end TapeMachine
