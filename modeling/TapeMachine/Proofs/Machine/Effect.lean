import TapeMachine.Proofs.Machine.Contents

set_option autoImplicit false

namespace TapeMachine

private theorem Plain.input_effect_of_ne_read {p : Plain} (other : p ≠ .read) (c : Contents) :
    (p.effect c).input = c.input := by
  cases p with
  | read => contradiction
  | _ => rfl

namespace Machine

/-- What executing an instruction can make of a machine. -/
inductive Effect (m : Machine) : Opcode → Machine → Prop
  | plain (p : Plain) (tape : Tape) (input : List UInt8) (output : Array UInt8)
      (meaning : Contents.of tape input output = p.effect m.contents) :
      Effect m p.opcode { m with tape := tape, input := input, output := output }
  | enter (nonzero : m.tape.read ≠ 0) : Effect m .loopStart { m with loops := m.pc :: m.loops }
  /-- Past a loop that is closed. -/
  | skip (stop : Nat) (zero : m.tape.read = 0)
      (found : Brackets.closing? m.code m.pc 0 = some stop) :
      Effect m .loopStart { m with pc := stop + 1 }
  /-- Past a loop that is never closed. -/
  | abandon (zero : m.tape.read = 0) (missing : Brackets.closing? m.code m.pc 0 = none) :
      Effect m .loopStart { m with pc := m.code.size }
  | ignore (entered : m.loops = []) :
      Effect m .loopEnd { m with unmatched := m.unmatched + 1 }
  | again (body : Nat) (outer : List Nat) (entered : m.loops = body :: outer)
      (nonzero : m.tape.read ≠ 0) : Effect m .loopEnd { m with pc := body }
  | leave (body : Nat) (outer : List Nat) (entered : m.loops = body :: outer)
      (zero : m.tape.read = 0) : Effect m .loopEnd { m with loops := outer }
  | halt : Effect m .halt { m with halted := true, pc := m.length }

theorem effect_execute (op : Opcode) (m : Machine) : Effect m op (m.execute op) := by
  cases plain : op.plain? with
  | some p =>
    obtain rfl := Opcode.eq_opcode_of_plain? plain
    obtain ⟨tape, input, output, meaning, same⟩ := m.execute_plain p
    rw [same]
    exact .plain p tape input output meaning
  | none =>
    cases op with
    | loopStart =>
      rw [execute, skipLoop]
      split
      · next zero =>
        split
        · next stop found => exact .skip stop zero found
        · next missing => exact .abandon zero missing
      · next nonzero => exact .enter nonzero
    | loopEnd =>
      rw [execute]
      split
      · next entered => exact .ignore entered
      · next body outer entered =>
        split
        · next zero => exact .leave body outer entered zero
        · next nonzero => exact .again body outer entered nonzero
    | halt => exact .halt
    | _ => contradiction

namespace Effect

variable {m m' : Machine} {op : Opcode}

theorem capacity_eq (effect : Effect m op m') : m'.tape.capacity = m.tape.capacity := by
  cases effect with
  | plain p tape input output meaning =>
    have cells := p.length_cells_effect m.contents
    rw [← meaning] at cells
    simpa [contents, Tape.capacity] using cells
  | _ => rfl

theorem input_eq (effect : Effect m op m') (other : op ≠ .read) : m'.input = m.input := by
  cases effect with
  | plain p tape input output meaning =>
    have quiet : p ≠ .read := fun reads => other (congrArg Plain.opcode reads)
    have unread := p.input_effect_of_ne_read quiet m.contents
    rw [← meaning] at unread
    exact Contents.toNat_injective unread
  | _ => rfl

end Effect

end Machine

end TapeMachine
