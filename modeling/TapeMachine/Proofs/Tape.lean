import Mathlib.Data.List.Induction
import Mathlib.Logic.Function.Iterate
import TapeMachine.Tape

set_option autoImplicit false

namespace TapeMachine.Tape

/-- What can be asked of a tape. -/
inductive Call
  | write (n : Int)
  | read
  | moveLeft
  | moveRight
  | reset
  deriving DecidableEq

namespace Call

/-- Carry out a call; only reading is answered by a byte. -/
def apply : Call → Tape → Option UInt8 × Tape
  | write n, t => (none, t.store n)
  | read, t => (some t.read, t)
  | moveLeft, t => (none, t.moveLeft)
  | moveRight, t => (none, t.moveRight)
  | reset, t => (none, t.reset)

/-- Whether a call moves the pointer, or takes it back to the first cell. -/
def steers : Call → Bool
  | moveLeft => true
  | moveRight => true
  | reset => true
  | write _ => false
  | read => false

end Call

/-- The tape after calls, in order. -/
def after (calls : List Call) (t : Tape) : Tape := calls.foldl (fun t call => (call.apply t).2) t

/-- The answers to calls, in order. -/
def answers : List Call → Tape → List (Option UInt8)
  | [], _ => []
  | call :: rest, t => (call.apply t).1 :: answers rest (call.apply t).2

section History

/-- Where the pointer stands among `c` cells after a history of calls, the latest call first. -/
def place (c : Nat) : (past : List Call) → Nat
  | [] => 0
  | .moveLeft :: past => (((place c past : Int) - 1) % c).toNat
  | .moveRight :: past => min (place c past + 1) (c - 1)
  | .reset :: _ => 0
  | .write _ :: past => place c past
  | .read :: past => place c past

/--
What was written last while the pointer stood at `i`; none if nothing was since the last reset. The
latest call of the history comes first.
-/
def lastWritten? (c i : Nat) : (past : List Call) → Option Int
  | [] => none
  | .write n :: past => if place c past = i then some n else lastWritten? c i past
  | .reset :: _ => none
  | .moveLeft :: past => lastWritten? c i past
  | .moveRight :: past => lastWritten? c i past
  | .read :: past => lastWritten? c i past

end History

variable {c : Nat} {past : List Call} {t : Tape}

section Moves

private theorem pointer_moveLeft_emod (t : Tape) :
    (t.moveLeft.pointer : Int) = (t.pointer - 1) % t.capacity := by
  have inside : t.pointer < t.capacity := t.pointer_lt
  rw [pointer_moveLeft]
  split
  · next first =>
    have wrapped : ((t.pointer : Int) - 1) % t.capacity = t.capacity - 1 := by
      rw [first, ← Int.add_emod_right, Int.emod_eq_of_lt] <;> omega
    omega
  · next behind =>
    rw [Int.emod_eq_of_lt] <;> omega

private theorem cells_iterate_moveLeft (t : Tape) (k : Nat) : (moveLeft^[k] t).cells = t.cells := by
  induction k with
  | zero => rfl
  | succ k ih =>
    rw [Function.iterate_succ_apply', ← ih]
    rfl

private theorem cells_iterate_moveRight (t : Tape) (k : Nat) :
    (moveRight^[k] t).cells = t.cells := by
  induction k with
  | zero => rfl
  | succ k ih =>
    rw [Function.iterate_succ_apply', ← ih]
    rfl

theorem pointer_iterate_moveLeft (t : Tape) (k : Nat) :
    ((moveLeft^[k] t).pointer : Int) = (t.pointer - k) % t.capacity := by
  have inside : t.pointer < t.capacity := t.pointer_lt
  induction k generalizing t with
  | zero => rw [Function.iterate_zero_apply, Int.emod_eq_of_lt] <;> omega
  | succ k ih =>
    have shifted : (t.pointer : Int) - 1 - k = t.pointer - (k + 1 : Nat) := by omega
    rw [Function.iterate_succ_apply, ih _ (pointer_lt _), capacity_moveLeft,
      pointer_moveLeft_emod, Int.emod_sub_emod, shifted]

theorem pointer_iterate_moveRight (t : Tape) (k : Nat) :
    (moveRight^[k] t).pointer = min (t.pointer + k) (t.capacity - 1) := by
  have inside : t.pointer < t.capacity := t.pointer_lt
  induction k with
  | zero =>
    rw [Function.iterate_zero_apply]
    omega
  | succ k ih =>
    have capacity : (moveRight^[k] t).capacity = t.capacity := by
      rw [Tape.capacity, cells_iterate_moveRight, Tape.capacity]
    rw [Function.iterate_succ_apply', pointer_moveRight, ih, capacity]
    omega

end Moves

section Cells

private theorem getElem?_write (b : UInt8) (t : Tape) (i : Nat) :
    (t.write b).cells[i]? = if t.pointer = i then some b else t.cells[i]? := by
  obtain ⟨cells, pointer, inside⟩ := t
  rw [write, Array.getElem?_set]

private theorem getElem?_pointer (t : Tape) : t.cells[t.pointer]? = some t.read := by
  obtain ⟨cells, pointer, inside⟩ := t
  exact Array.getElem?_eq_getElem inside

end Cells

/-- That a tape of `c` cells is as a history of calls, the latest call first, says it is. -/
structure Remembers (c : Nat) (past : List Call) (t : Tape) : Prop where
  capacity : t.capacity = c
  pointer : t.pointer = place c past
  cells : ∀ i < c, ∃ b, t.cells[i]? = some b ∧
    (b.toNat : Int) = (lastWritten? c i past).getD 0 % 256

private theorem remembers_blank (positive : 0 < c) : Remembers c [] (blank c positive) where
  capacity := capacity_blank c positive
  pointer := rfl
  cells := by
    intro i inside
    refine ⟨0, ?_, rfl⟩
    simp [blank, inside]

private theorem Remembers.reset (remembers : Remembers c past t) :
    Remembers c (.reset :: past) t.reset where
  capacity := by rw [capacity_reset, remembers.capacity]
  pointer := rfl
  cells := by
    intro i inside
    refine ⟨0, ?_, rfl⟩
    have size : t.cells.size = c := remembers.capacity
    simp [Tape.reset, blank, size, inside]

private theorem Remembers.store (remembers : Remembers c past t) (n : Int) :
    Remembers c (.write n :: past) (t.store n) where
  capacity := by rw [Tape.store, capacity_write, remembers.capacity]
  pointer := remembers.pointer
  cells := by
    intro i inside
    rw [Tape.store, getElem?_write, remembers.pointer, lastWritten?]
    split
    · exact ⟨lowByte n, rfl, toNat_lowByte n⟩
    · exact remembers.cells i inside

private theorem Remembers.apply (remembers : Remembers c past t) (call : Call) :
    Remembers c (call :: past) (call.apply t).2 := by
  cases call with
  | write n => exact remembers.store n
  | read => exact ⟨remembers.capacity, remembers.pointer, remembers.cells⟩
  | moveLeft =>
    refine ⟨remembers.capacity, ?_, remembers.cells⟩
    rw [place, ← remembers.pointer, ← remembers.capacity, ← pointer_moveLeft_emod]
    rfl
  | moveRight =>
    refine ⟨remembers.capacity, ?_, remembers.cells⟩
    rw [place, ← remembers.pointer, ← remembers.capacity]
    rfl
  | reset => exact remembers.reset

theorem remembers_after (positive : 0 < c) (calls : List Call) :
    Remembers c calls.reverse (after calls (blank c positive)) := by
  induction calls using List.reverseRecOn with
  | nil => exact remembers_blank positive
  | append_singleton calls call ih =>
    rw [List.reverse_concat, after, List.foldl_append]
    exact ih.apply call

private theorem getElem?_answers (before : List Call) (call : Call) (rest : List Call) (t : Tape) :
    (answers (before ++ call :: rest) t)[before.length]? =
      some (call.apply (after before t)).1 := by
  induction before generalizing t with
  | nil => rfl
  | cons first before ih => exact ih (first.apply t).2

private theorem place_filter_steers (c : Nat) (past : List Call) :
    place c (past.filter Call.steers) = place c past := by
  induction past with
  | nil => rfl
  | cons call past ih =>
    cases call <;> simp [List.filter_cons, Call.steers, place, ih]

/--
A tape of `c` cells, all of them zero at first, after any calls: the pointer stands on one of the
cells, where the moves and resets have taken it, and a cell holds what was written last while the
pointer stood on it, modulo 256, or zero if nothing was written there since the last reset. Reading
is answered by the cell under the pointer at that time. From wherever the pointer stands, moves in a
row take it to the left modulo the number of cells, and to the right no farther than the last cell;
they change no cell. Calls with the same moves and resets among them take the pointer to the same
cell, whatever is written.
-/
theorem holds_last_written (c : Nat) (positive : 0 < c) (calls : List Call) :
    let fresh := blank c positive
    let t := after calls fresh
    t.capacity = c ∧ t.pointer < c ∧ t.pointer = place c calls.reverse ∧
    (∀ i < c, ∃ b, t.cells[i]? = some b ∧
      (b.toNat : Int) = (lastWritten? c i calls.reverse).getD 0 % 256) ∧
    (∀ before rest, calls = before ++ .read :: rest → ∃ b,
      (answers calls fresh)[before.length]? = some (some b) ∧
        (after before fresh).cells[place c before.reverse]? = some b) ∧
    (∀ k, ((moveLeft^[k] t).pointer : Int) = (t.pointer - k) % c ∧
      (moveLeft^[k] t).cells = t.cells) ∧
    (∀ k, (moveRight^[k] t).pointer = min (t.pointer + k) (c - 1) ∧
      (moveRight^[k] t).cells = t.cells) ∧
    ∀ others, others.filter Call.steers = calls.filter Call.steers →
      (after others fresh).pointer = t.pointer := by
  intro fresh t
  have remembers := remembers_after positive calls
  refine ⟨remembers.capacity, ?_, remembers.pointer, remembers.cells, ?_, ?_, ?_, ?_⟩
  · rw [← remembers.capacity]
    exact t.pointer_lt
  · rintro before rest rfl
    refine ⟨(after before fresh).read, getElem?_answers before .read rest fresh, ?_⟩
    rw [← (remembers_after positive before).pointer]
    exact getElem?_pointer _
  · intro k
    rw [pointer_iterate_moveLeft, remembers.capacity]
    exact ⟨rfl, cells_iterate_moveLeft t k⟩
  · intro k
    rw [pointer_iterate_moveRight, remembers.capacity]
    exact ⟨rfl, cells_iterate_moveRight t k⟩
  · intro others same
    calc (after others fresh).pointer
        = place c (others.filter Call.steers).reverse := by
          rw [(remembers_after positive others).pointer, ← List.filter_reverse,
            place_filter_steers]
      _ = t.pointer := by
          rw [same, remembers.pointer, ← List.filter_reverse, place_filter_steers]

theorem holds_last_written_both_edges :
    let calls : List Call :=
      [.write 300, .moveLeft, .moveRight, .write (-1), .moveLeft, .read, .moveLeft, .read]
    let fresh := blank 3 (Nat.succ_pos 2)
    let t := after calls fresh
    0 < 3 ∧ lastWritten? 3 0 calls.reverse = some 300 ∧ lastWritten? 3 1 calls.reverse = none ∧
    lastWritten? 3 2 calls.reverse = some (-1) ∧ t.cells = #[44, 0, 255] ∧
    (∃ b, t.cells[2]? = some b ∧ (b.toNat : Int) = -1 % 256) ∧
    (∃ b, (answers calls fresh)[7]? = some (some b) ∧ b = 44) ∧ t.pointer = 0 ∧
    ((moveLeft^[5] t).pointer : Int) = (0 - 5) % 3 ∧ (moveRight^[5] t).pointer = 2 := by
  intro calls fresh t
  have positive : 0 < 3 := by decide
  have written : t.cells = #[44, 0, 255] := by decide +kernel
  obtain ⟨-, -, -, cells, reads, left, right, -⟩ := holds_last_written 3 positive calls
  obtain ⟨b, answered, under⟩ :=
    reads [.write 300, .moveLeft, .moveRight, .write (-1), .moveLeft, .read, .moveLeft] [] rfl
  have read : b = 44 := by
    have held : (after [.write 300, .moveLeft, .moveRight, .write (-1), .moveLeft, .read,
      .moveLeft] fresh).cells = #[44, 0, 255] := by decide +kernel
    rw [held] at under
    exact (Option.some.inj under).symm
  exact ⟨positive, by decide, by decide, by decide, written, cells 2 (by decide),
    ⟨b, answered, read⟩, by decide +kernel, (left 5).1, (right 5).1⟩

end TapeMachine.Tape
