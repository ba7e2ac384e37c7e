import TapeMachine.Proofs.Brackets.Closing
import TapeMachine.Proofs.Machine.Move

set_option autoImplicit false

namespace TapeMachine.Machine

variable {m : Machine} {e : Nat}

private theorem closing?_eq_some_iff_closes_program :
    Brackets.closing? m.code m.pc 0 = some e ↔ Brackets.Closes m.program m.pc e := by
  rw [program, Brackets.closes_push_iff (by decide), Brackets.closing?_eq_some_iff_closes]

theorem skipLoop_of_closes (closes : Brackets.Closes m.program m.pc e) :
    m.skipLoop = { m with pc := e + 1 } := by
  rw [skipLoop, closing?_eq_some_iff_closes_program.mpr closes]

theorem skipLoop_of_unclosed (unclosed : ¬ ∃ e, Brackets.Closes m.program m.pc e) :
    m.skipLoop = { m with pc := m.program.size - 1 } := by
  have missing : Brackets.closing? m.code m.pc 0 = none := by
    rw [Option.eq_none_iff_forall_ne_some]
    intro e found
    exact unclosed ⟨e, closing?_eq_some_iff_closes_program.mp found⟩
  rw [skipLoop, missing, program, Array.size_push, Nat.add_sub_cancel]

private theorem next_of_skipped (here : m.current? = some .loopStart) (zero : m.tape.read = 0) :
    m.next = { m.passed.skipLoop with steps := m.steps + 1 } := by
  have skipped : m.passed.execute .loopStart = m.passed.skipLoop := if_pos zero
  rw [next_eq_perform here, perform, skipped, skipLoop]
  split <;> rfl

/--
A loop is skipped to behind the loop end up to which the brackets are balanced, of which there is at
most one; if there is none, to the stop mark behind the code. Nothing but the program counter
changes. Right behind a loop start that loop end is the partner that a scan of the whole program
gives it. All of this holds wherever the program counter stands, whether the loop start is fetched
from the program or executed out of turn.
-/
theorem skipLoop_finds_partner (m : Machine) :
    (∀ e, Brackets.Closes m.program m.pc e →
      (∀ e', Brackets.Closes m.program m.pc e' → e' = e) ∧ m.skipLoop = { m with pc := e + 1 }) ∧
    ((¬ ∃ e, Brackets.Closes m.program m.pc e) →
      m.skipLoop = { m with pc := m.program.size - 1 }) ∧
    (∀ start e, m.pc = start + 1 → m.program[start]? = some .loopStart →
      (Brackets.Closes m.program m.pc e ↔ (start, e) ∈ Brackets.loops m.program)) ∧
    (m.tape.read = 0 →
      (Operation.execute 7).apply m = (.done, m.skipLoop) ∧
      (m.current? = some .loopStart →
        m.next = { m.passed.skipLoop with steps := m.steps + 1 })) := by
  refine ⟨?_, skipLoop_of_unclosed, ?_, ?_⟩
  · intro e closes
    exact ⟨fun e' again => closes.unique again, skipLoop_of_closes closes⟩
  · intro start e behind here
    rw [behind, Brackets.closes_iff_mem_loops here]
  · intro zero
    have executed : m.execute .loopStart = m.skipLoop := if_pos zero
    exact ⟨congrArg (Prod.mk Reply.done) executed, fun here => next_of_skipped here zero⟩

/--
A loop with another loop and a stop mark inside it, between a loop end that closes nothing and a
loop start that is never closed; and a machine past the end of that program, where nothing is left
to close a loop.
-/
theorem skipLoop_finds_partner_around_stop :
    let loaded := (new (Tape.blank 1 Nat.one_pos)).load
      [.loopEnd, .loopStart, .loopStart, .halt, .loopEnd, .inc, .loopEnd, .loopStart]
    let before := (Operation.fetch.apply loaded).2
    let inside := (Operation.fetch.apply before).2
    let past := ((Operation.execute 255).apply loaded).2
    (Brackets.Closes inside.program inside.pc 6 ∧
      (∀ e, Brackets.Closes inside.program inside.pc e → e = 6) ∧
      inside.skipLoop = { inside with pc := 7 } ∧ (1, 6) ∈ Brackets.loops inside.program ∧
      before.next = { before with pc := 7, steps := 1 }) ∧
    (¬ ∃ e, Brackets.Closes past.program past.pc e) ∧ past.pc = past.program.size ∧
      (Operation.execute 7).apply past = (.done, { past with pc := 8 }) := by
  intro loaded before inside past
  obtain ⟨closed, -, partner, -⟩ := skipLoop_finds_partner inside
  have closes : Brackets.Closes inside.program inside.pc 6 := by decide +kernel
  obtain ⟨only, skipped⟩ := closed 6 closes
  have paired := (partner 1 6 (by decide +kernel) (by decide +kernel)).mp closes
  have zero : before.tape.read = 0 := by decide +kernel
  have stepped := ((skipLoop_finds_partner before).2.2.2 zero).2 (by decide +kernel)
  rw [show before.passed = inside by decide +kernel, skipped] at stepped
  obtain ⟨-, unclosed, -, direct⟩ := skipLoop_finds_partner past
  have size : past.pc = past.program.size := by decide +kernel
  have none : ¬ ∃ e, Brackets.Closes past.program past.pc e := by
    rintro ⟨e, le, ends, -⟩
    have within := (Array.getElem?_eq_some_iff.mp ends).1
    omega
  have executed := (direct (by decide +kernel)).1
  rw [unclosed none] at executed
  exact ⟨⟨closes, only, skipped, paired, stepped⟩, none, size, executed⟩

end TapeMachine.Machine
