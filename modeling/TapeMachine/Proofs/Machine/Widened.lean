import TapeMachine.Proofs.Machine.Executions

set_option autoImplicit false

namespace TapeMachine

/-- The tape with more cells behind its own, all of them zero. -/
def Tape.widen (extra : Nat) : Tape → Tape
  | ⟨cells, pointer, inside⟩ =>
    ⟨cells ++ Array.replicate extra 0, pointer, by
      rw [Array.size_append]
      exact Nat.lt_add_right _ inside⟩

namespace Tape

variable {t : Tape} {extra : Nat}

private theorem read_widen (t : Tape) : (t.widen extra).read = t.read := by
  obtain ⟨cells, pointer, inside⟩ := t
  exact Array.getElem_append_left inside

private theorem blank_widen {n : Nat} (positive : 0 < n) :
    (blank n positive).widen extra = blank (n + extra) (Nat.add_pos_left positive extra) := by
  simp [blank, widen, Array.replicate_append_replicate]

end Tape

/-- The numbers with more zeros behind the cells. -/
def Contents.widen (extra : Nat) (c : Contents) : Contents :=
  { c with cells := c.cells ++ List.replicate extra 0 }

namespace Contents

variable {c : Contents} {extra : Nat}

private theorem cell_widen (inside : c.pointer < c.cells.length) :
    (c.widen extra).cell = c.cell := by
  simp only [cell, widen, List.getD_eq_getElem?_getD, List.getElem?_append_left inside]

private theorem put_widen (inside : c.pointer < c.cells.length) (n : Nat) :
    (c.widen extra).put n = (c.put n).widen extra := by
  simp only [put, widen, List.set_append_left _ _ inside]

private theorem of_widen (t : Tape) (input : List UInt8) (output : Array UInt8) :
    of (t.widen extra) input output = (of t input output).widen extra := by
  obtain ⟨cells, pointer, inside⟩ := t
  simp [of, Tape.widen, widen]

end Contents

private theorem Plain.effect_widen {p : Plain} {c : Contents} {extra : Nat}
    (inside : c.pointer < c.cells.length) (left : p = .ptrLeft → c.pointer ≠ 0)
    (right : p = .ptrRight → c.pointer ≠ c.cells.length - 1) :
    p.effect (c.widen extra) = (p.effect c).widen extra := by
  have pointer : (c.widen extra).pointer = c.pointer := rfl
  have length : (c.widen extra).cells.length = c.cells.length + extra := by simp [Contents.widen]
  cases p with
  | nop => rfl
  | inc => rw [effect, effect, Contents.cell_widen inside, Contents.put_widen inside]
  | dec => rw [effect, effect, Contents.cell_widen inside, Contents.put_widen inside]
  | ptrLeft =>
    simp only [effect, pointer, if_neg (left rfl)]
    rfl
  | ptrRight =>
    have stays : c.pointer ≠ c.cells.length - 1 := right rfl
    have wide : min (c.pointer + 1) (c.cells.length + extra - 1) = c.pointer + 1 := by omega
    have narrow : min (c.pointer + 1) (c.cells.length - 1) = c.pointer + 1 := by omega
    simp only [effect, pointer, length, wide, narrow]
    rfl
  | read =>
    obtain ⟨cells, place, input, output⟩ := c
    cases input with
    | nil => exact Contents.put_widen inside 0
    | cons b rest => exact Contents.put_widen (c := ⟨cells, place, rest, output⟩) inside b
  | write =>
    simp only [effect, Contents.cell_widen inside]
    rfl

/-- Whether an instruction moves the pointer over an edge of the tape. -/
def Execution.CrossesEdge (e : Execution) : Prop :=
  e.op = .ptrLeft ∧ e.before.tape.pointer = 0 ∨
    e.op = .ptrRight ∧ e.before.tape.pointer = e.before.tape.capacity - 1

instance : DecidablePred Execution.CrossesEdge := fun _ =>
  inferInstanceAs (Decidable (_ ∧ _ ∨ _ ∧ _))

namespace Machine

/-- The machine with more cells behind its own, all of them zero. -/
def widen (extra : Nat) (m : Machine) : Machine := { m with tape := m.tape.widen extra }

variable {m m' : Machine} {extra : Nat}

private theorem current?_widen (m : Machine) : (m.widen extra).current? = m.current? := rfl

private theorem contents_widen (m : Machine) : (m.widen extra).contents = m.contents.widen extra :=
  Contents.of_widen m.tape m.input m.output

private theorem move_widen (move : Move m m')
    (inner : ∀ op, m.current? = some op → ¬ Execution.CrossesEdge ⟨op, m.passed⟩) :
    Move (m.widen extra) (m'.widen extra) := by
  refine move_refit (f := Tape.widen extra) (g := id) move m.tape.read_widen ?_
  intro p tape input output here effect
  have stays := inner p.opcode here
  have pointer : m.contents.pointer < m.contents.cells.length := by
    simpa [contents, Contents.of] using m.tape.pointer_lt
  have left : p = .ptrLeft → m.contents.pointer ≠ 0 := by
    rintro rfl atEdge
    exact stays (.inl ⟨rfl, atEdge⟩)
  have right : p = .ptrRight → m.contents.pointer ≠ m.contents.cells.length - 1 := by
    rintro rfl atEdge
    refine stays (.inr ⟨rfl, ?_⟩)
    simpa [contents, Contents.of, passed, Tape.capacity] using atEdge
  calc Contents.of (tape.widen extra) input output
      = (p.effect m.contents).widen extra := by rw [Contents.of_widen, effect]
    _ = p.effect (m.widen extra).contents := by
        rw [contents_widen, Plain.effect_widen pointer left right]

theorem after_widen {n : Nat} (inner : ∀ e ∈ m.executions n, ¬ e.CrossesEdge) :
    (m.widen extra).after n = (m.after n).widen extra :=
  after_map (fun {a} stopped => (current?_widen a).trans stopped) move_widen inner

private theorem reset_eq_widen {a b : Machine} (code : a.code = b.code) (input : a.input = b.input)
    (le : a.tape.capacity ≤ b.tape.capacity) :
    b.reset = a.reset.widen (b.tape.capacity - a.tape.capacity) := by
  have size : a.tape.cells.size + (b.tape.capacity - a.tape.capacity) = b.tape.cells.size :=
    Nat.add_sub_cancel' le
  simp [reset, widen, Tape.reset, Tape.blank_widen, size, code, input]

/--
The same program and the same input are loaded into two machines, of which the second one has at
least as many cells. Up to `k` steps, in which the first machine moves to the left on no first cell
and to the right on no last cell, both are the same after every step, and behind the cells of the
first one the second one has zeros.
-/
theorem same_until_edge (small large : Machine) (ops : List Opcode) (input : List UInt8) (k : Nat)
    (le : small.tape.capacity ≤ large.tape.capacity)
    (inner : ∀ e ∈ ((small.load ops).feed input).executions k, ¬ e.CrossesEdge) :
    ∀ j ≤ k,
      let a := ((small.load ops).feed input).after j
      let b := ((large.load ops).feed input).after j
      b.pc = a.pc ∧ b.tape.pointer = a.tape.pointer ∧ b.loops = a.loops ∧ b.output = a.output ∧
        b.input = a.input ∧ b.steps = a.steps ∧ b.halted = a.halted ∧ b.unmatched = a.unmatched ∧
        b.tape.cells = a.tape.cells ++
          Array.replicate (large.tape.capacity - small.tape.capacity) 0 := by
  intro j within a b
  have fewer : ∀ e ∈ ((small.load ops).feed input).executions j, ¬ e.CrossesEdge :=
    fun e among => inner e ((executions_mono within _).subset among)
  have start : (large.load ops).feed input =
      ((small.load ops).feed input).widen (large.tape.capacity - small.tape.capacity) := by
    have same := reset_eq_widen (a := { small with code := ops.toArray, input := input })
      (b := { large with code := ops.toArray, input := input }) rfl rfl le
    simpa [feed, load, reset, Tape.reset, Tape.blank] using same
  have both : b = a.widen (large.tape.capacity - small.tape.capacity) := by
    simp only [a, b, start, after_widen fewer]
  rw [both]
  exact ⟨rfl, rfl, rfl, rfl, rfl, rfl, rfl, rfl, rfl⟩

theorem same_until_edge_behind_loop :
    let ops := [.read, .ptrRight, .inc, .loopStart, .ptrLeft, .write, .ptrRight, .dec, .loopEnd,
      .ptrRight, .inc]
    let small := new (Tape.blank 2 Nat.two_pos)
    let large := new (Tape.blank 4 (Nat.succ_pos 3))
    let a := ((small.load ops).feed [7]).after 9
    let b := ((large.load ops).feed [7]).after 9
    small.tape.capacity ≤ large.tape.capacity ∧
    (∀ e ∈ ((small.load ops).feed [7]).executions 9, ¬ e.CrossesEdge) ∧
    a.tape.pointer = 1 ∧ b.tape.pointer = a.tape.pointer ∧ a.output = #[7] ∧ b.output = a.output ∧
    b.tape.cells = a.tape.cells ++ #[0, 0] ∧ a.next.tape.pointer = 1 ∧ b.next.tape.pointer = 2 := by
  intro ops small large
  have le : small.tape.capacity ≤ large.tape.capacity := by decide
  have inner : ∀ e ∈ ((small.load ops).feed [7]).executions 9, ¬ e.CrossesEdge := by
    decide +kernel
  have more :
      Array.replicate (large.tape.capacity - small.tape.capacity) (0 : UInt8) = #[0, 0] := by
    decide +kernel
  obtain ⟨-, pointer, -, output, -, -, -, -, cells⟩ :=
    same_until_edge small large ops [7] 9 le inner 9 le_rfl
  rw [more] at cells
  exact ⟨le, inner, by decide +kernel, pointer, by decide +kernel, output, cells,
    by decide +kernel, by decide +kernel⟩

end Machine

end TapeMachine
