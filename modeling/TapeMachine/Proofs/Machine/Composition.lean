import TapeMachine.Proofs.Machine.Budget

/-!
Programs one behind the other. Main statement: the first program runs as it does alone until it
comes to its stop mark, and from there on the second one runs as it does alone from the tape and the
input that the first one has left. No scan and no jump of either crosses into the other, since the
first one leaves no loop open.
-/

set_option autoImplicit false

namespace TapeMachine

namespace Brackets

variable {front back : Array Opcode} {i d stop : Nat}

private theorem getElem?_append_left {op : Opcode} (here : front[i]? = some op) :
    (front ++ back)[i]? = some op := by
  obtain ⟨inside, same⟩ := Array.getElem?_eq_some_iff.mp here
  rw [Array.getElem?_append_left inside, Array.getElem?_eq_getElem inside, same]

private theorem getElem?_append_right :
    (front ++ back)[front.size + i]? = back[i]? := by
  rw [Array.getElem?_append_right (Nat.le_add_right _ _), Nat.add_sub_cancel_left]

private theorem opened_append_left (le : i ≤ front.size) :
    opened (front ++ back) i = opened front i := by
  induction i with
  | zero => rfl
  | succ i ih =>
    have same : (front ++ back)[i]? = front[i]? := Array.getElem?_append_left (by omega)
    have before := ih (by omega)
    by_cases start : front[i]? = some .loopStart
    · rw [opened_start start, opened_start (same.trans start), before]
    · by_cases stop : front[i]? = some .loopEnd
      · rw [opened_end stop, opened_end (same.trans stop), before]
      · rw [opened_other start stop, opened_other (by rwa [same]) (by rwa [same]), before]

private theorem closing?_append_left (found : closing? front i d = some stop) :
    closing? (front ++ back) i d = some stop := by
  induction left : front.size - i generalizing i d with
  | zero => simp [closing?_outside (show front.size ≤ i by omega)] at found
  | succ left ih =>
    have inside : i < front.size := by omega
    have same : (front ++ back)[i]? = front[i]? := Array.getElem?_append_left inside
    by_cases start : front[i]? = some .loopStart
    · rw [closing?_start start] at found
      rw [closing?_start (same.trans start)]
      exact ih found (by omega)
    · by_cases ends : front[i]? = some .loopEnd
      · cases d with
        | zero =>
          rw [closing?_end_zero ends] at found
          rw [closing?_end_zero (same.trans ends), found]
        | succ d =>
          rw [closing?_end_succ ends] at found
          rw [closing?_end_succ (same.trans ends)]
          exact ih found (by omega)
      · rw [closing?_other inside start ends] at found
        rw [closing?_other (by rw [Array.size_append]; omega) (by rwa [same]) (by rwa [same])]
        exact ih found (by omega)

private theorem closing?_append_right :
    closing? (front ++ back) (front.size + i) d = (closing? back i d).map (front.size + ·) := by
  have size : (front ++ back).size = front.size + back.size := Array.size_append
  induction left : back.size - i generalizing i d with
  | zero => rw [closing?_outside (by omega), closing?_outside (by omega), Option.map_none]
  | succ left ih =>
    have inside : i < back.size := by omega
    have same : (front ++ back)[front.size + i]? = back[i]? := getElem?_append_right
    by_cases start : back[i]? = some .loopStart
    · rw [closing?_start start, closing?_start (same.trans start)]
      exact ih (i := i + 1) (by omega)
    · by_cases ends : back[i]? = some .loopEnd
      · cases d with
        | zero => rw [closing?_end_zero ends, closing?_end_zero (same.trans ends), Option.map_some]
        | succ d =>
          rw [closing?_end_succ ends, closing?_end_succ (same.trans ends)]
          exact ih (i := i + 1) (by omega)
      · rw [closing?_other inside start ends,
          closing?_other (by omega) (by rwa [same]) (by rwa [same])]
        exact ih (i := i + 1) (by omega)

private theorem closing?_ne_none {code : Array Opcode} (closed : opened code code.size = [])
    (start : code[i]? = some .loopStart) : closing? code (i + 1) 0 ≠ none := by
  intro missing
  have inside : i < code.size := (Array.getElem?_eq_some_iff.mp start).1
  have before : opened code (i + 1) = [] ++ i :: opened code i := opened_start start
  have still := suffix_opened_of_closing?_eq_none before missing inside le_rfl
  rw [closed, List.suffix_nil] at still
  contradiction

end Brackets

namespace Machine

/-- A machine at the beginning of a program, with the tape and the input that another one left. -/
def starting (ops : List Opcode) (tape : Tape) (input : List UInt8) : Machine where
  code := ops.toArray
  pc := 0
  loops := []
  tape := tape
  input := input
  output := #[]
  steps := 0
  halted := false
  unmatched := 0

/-- The machine with more code behind its own. -/
def extend (back : Array Opcode) (m : Machine) : Machine := { m with code := m.code ++ back }

/--
A machine that has come to the code of another one and has gone on as that one has: its places are
those of the other one, moved behind the code in front, and what both have put out and counted adds
up.
-/
def continuedBy (before m : Machine) : Machine where
  code := before.code
  pc := before.pc + m.pc
  loops := m.loops.map (before.pc + ·)
  tape := m.tape
  input := m.input
  output := before.output ++ m.output
  steps := before.steps + m.steps
  halted := m.halted
  unmatched := before.unmatched + m.unmatched

variable {m m' : Machine} {front back : Array Opcode}

section Front

private theorem move_extend (unstopped : .halt ∉ m.code)
    (closed : Brackets.opened m.code m.code.size = [])
    (inside : m.pc < m.code.size) (move : Move m m') : Move (m.extend back) (m'.extend back) := by
  have current {op : Opcode} (here : m.current? = some op) :
      (m.extend back).current? = some op := by
    rw [current?_of_lt inside] at here
    have inside' : (m.extend back).pc < (m.extend back).code.size := by
      simp only [extend, Array.size_append]
      omega
    rw [current?_of_lt inside']
    exact Brackets.getElem?_append_left here
  cases move with
  | plain p tape input output here effect => exact .plain p tape input output (current here) effect
  | enter here nonzero => exact .enter (current here) nonzero
  | skip stop here zero found =>
    exact .skip stop (current here) zero (Brackets.closing?_append_left found)
  | abandon here zero missing =>
    exact absurd missing (Brackets.closing?_ne_none closed (getElem?_of_current? here (by decide)))
  | ignore here entered => exact .ignore (current here) entered
  | again body outer here entered nonzero => exact .again body outer (current here) entered nonzero
  | leave body outer here entered zero => exact .leave body outer (current here) entered zero
  | halt here =>
    rw [current?_of_lt inside] at here
    exact absurd (Array.mem_of_getElem? here) unstopped

private theorem Sound.pc_le_of_move (sound : Sound m) (unstopped : .halt ∉ m.code)
    (inside : m.pc < m.code.size) (move : Move m m') : m'.pc ≤ m.code.size := by
  have going : m'.halted = m.halted := by
    cases move with
    | halt here =>
      rw [current?_of_lt inside] at here
      exact absurd (Array.mem_of_getElem? here) unstopped
    | _ => rfl
  have left : m'.current? ≠ none := by
    rw [Ne, ← (sound.move move).halted_iff, going, sound.halted_iff]
    exact move.running
  rw [Ne, current?_eq_none_iff, length, move.code_eq] at left
  omega

theorem extend_after {n : Nat} (unstopped : .halt ∉ m.code)
    (closed : Brackets.opened m.code m.code.size = [])
    (inside : ∀ k < n, (m.after k).pc < m.code.size) :
    (m.extend back).after n = (m.after n).extend back := by
  induction n with
  | zero => rfl
  | succ n ih =>
    have here := inside n (Nat.lt_succ_self n)
    have code : (m.after n).code = m.code := code_after n m
    have running : (m.after n).current? ≠ none := by
      rw [Ne, current?_eq_none_iff, length, code]
      omega
    have move : Move ((m.after n).extend back) ((m.after n).next.extend back) :=
      move_extend (by rwa [code]) (by rwa [code]) (by rwa [code]) (move_next running)
    rw [after_succ, after_succ, ih fun k less => inside k (by omega), move.next_eq]

end Front

section Back

private theorem Plain.effect_output_append (p : Plain) (earlier : List Nat) (c : Contents) :
    p.effect { c with output := earlier ++ c.output } =
      { p.effect c with output := earlier ++ (p.effect c).output } := by
  cases p with
  | read =>
    simp only [Plain.effect]
    split <;> rfl
  | write => simp [Plain.effect, Contents.cell]
  | _ => rfl

private theorem contents_continuedBy (before m : Machine) : (before.continuedBy m).contents =
    { m.contents with output := before.output.toList.map UInt8.toNat ++ m.contents.output } := by
  simp [contents, continuedBy, Contents.of]

private theorem current?_continuedBy {before : Machine} (code : before.code = front ++ m.code)
    (pc : before.pc = front.size) : (before.continuedBy m).current? = m.current? := by
  rw [current?_eq, current?_eq, program, program]
  simp only [continuedBy, code, pc, ← Array.append_push]
  exact Brackets.getElem?_append_right

private theorem move_continuedBy {before : Machine} (code : before.code = front ++ m.code)
    (pc : before.pc = front.size) (move : Move m m') :
    Move (before.continuedBy m) (before.continuedBy m') := by
  have current {op : Opcode} (here : m.current? = some op) :
      (before.continuedBy m).current? = some op := (current?_continuedBy code pc).trans here
  have search : Brackets.closing? (before.continuedBy m).code ((before.continuedBy m).pc + 1) 0 =
      (Brackets.closing? m.code (m.pc + 1) 0).map (before.pc + ·) := by
    simp only [continuedBy, code, pc, Nat.add_assoc]
    exact Brackets.closing?_append_right
  cases move with
  | plain p tape input output here effect =>
    have effect' : Contents.of tape input (before.output ++ output) =
        p.effect (before.continuedBy m).contents := by
      rw [contents_continuedBy, Plain.effect_output_append, ← effect]
      simp [Contents.of]
    have moved := Move.plain p tape input _ (current here) effect'
    simpa only [continuedBy, Nat.add_assoc] using moved
  | enter here nonzero =>
    have moved := Move.enter (m := before.continuedBy m) (current here) nonzero
    simpa only [continuedBy, Nat.add_assoc, List.map_cons] using moved
  | skip stop here zero found =>
    rw [found] at search
    have moved := Move.skip _ (current here) zero search
    simpa only [continuedBy, Nat.add_assoc] using moved
  | abandon here zero missing =>
    rw [missing] at search
    have moved := Move.abandon (current here) zero search
    simpa only [continuedBy, Nat.add_assoc, code, Array.size_append, pc] using moved
  | ignore here entered =>
    have noneEntered : (before.continuedBy m).loops = [] := List.map_eq_nil_iff.mpr entered
    have moved := Move.ignore (current here) noneEntered
    simpa only [continuedBy, Nat.add_assoc] using moved
  | again body outer here entered nonzero =>
    have entered' : (before.continuedBy m).loops = (before.pc + body) :: outer.map _ :=
      (congrArg _ entered).trans List.map_cons
    have moved := Move.again _ _ (current here) entered' nonzero
    simpa only [continuedBy, Nat.add_assoc] using moved
  | leave body outer here entered zero =>
    have entered' : (before.continuedBy m).loops = (before.pc + body) :: outer.map _ :=
      (congrArg _ entered).trans List.map_cons
    have moved := Move.leave _ _ (current here) entered' zero
    simpa only [continuedBy, Nat.add_assoc] using moved
  | halt here =>
    have moved := Move.halt (current here)
    simpa only [continuedBy, Nat.add_assoc, length, code, Array.size_append, pc] using moved

theorem after_continuedBy {before : Machine} (code : before.code = front ++ m.code)
    (pc : before.pc = front.size) (n : Nat) :
    (before.continuedBy m).after n = before.continuedBy (m.after n) := by
  induction n with
  | zero => rfl
  | succ n ih =>
    have code' : before.code = front ++ (m.after n).code := by rw [code_after, code]
    rw [after_succ, after_succ, ih]
    by_cases stopped : (m.after n).current? = none
    · rw [next_of_current?_eq_none stopped,
        next_of_current?_eq_none ((current?_continuedBy code' pc).trans stopped)]
    · exact (move_continuedBy code' pc (move_next stopped)).next_eq

/-- At the stop mark of its own code a machine goes on as the code behind it does from there. -/
theorem after_extend {ops : List Opcode} (there : m.pc = m.code.size) (loops : m.loops = [])
    (going : m.halted = false) (n : Nat) : (m.extend ops.toArray).after n =
      (m.extend ops.toArray).continuedBy ((starting ops m.tape m.input).after n) := by
  have begun : m.extend ops.toArray =
      (m.extend ops.toArray).continuedBy (starting ops m.tape m.input) := by
    simp [continuedBy, extend, starting, loops, going]
  have code : (m.extend ops.toArray).code = m.code ++ (starting ops m.tape m.input).code := rfl
  rw [← after_continuedBy code there, ← begun]

end Back

section Run

private theorem exists_at_stop {n : Nat} (unstopped : .halt ∉ m.code)
    (stopped : (m.reset.after n).current? = none) :
    ∃ k, (m.reset.after k).pc = m.code.size ∧ ∀ j < k, (m.reset.after j).pc < m.code.size := by
  have code (k : Nat) : (m.reset.after k).code = m.code := code_after k m.reset
  have past : ∃ k, m.code.size ≤ (m.reset.after k).pc := by
    refine ⟨n, ?_⟩
    rw [current?_eq_none_iff, length, code] at stopped
    omega
  classical
  have before : ∀ j < Nat.find past, (m.reset.after j).pc < m.code.size :=
    fun j less => Nat.lt_of_not_le (Nat.find_min past less)
  refine ⟨Nat.find past, Nat.le_antisymm ?_ (Nat.find_spec past), before⟩
  cases first : Nat.find past with
  | zero => exact Nat.zero_le _
  | succ k =>
    have inside := before k (by omega)
    rw [← code k] at inside
    have running : (m.reset.after k).current? ≠ none := by
      rw [Ne, current?_eq_none_iff, length]
      omega
    rw [after_succ, ← code k]
    exact ((Sound.reset m).after k).pc_le_of_move (by rwa [code k]) inside (move_next running)

private theorem pc_lt_of_endless (endless : m.run none = none) (n : Nat) :
    (m.reset.after n).pc < m.code.size := by
  have code : (m.reset.after n).code = m.code := code_after n m.reset
  have running := run_none_eq_none_iff.mp endless
  by_contra outside
  have left := running n
  rw [Ne, current?_eq_none_iff, length, code] at left
  have halts := Move.halt (current?_of_eq (m := m.reset.after n) (by rw [code]; omega))
  apply running (n + 1)
  rw [after_succ, halts.next_eq]
  exact current?_eq_none_iff.mpr le_rfl

private theorem loops_at_stop {k : Nat} (unstopped : .halt ∉ m.code)
    (closed : Brackets.opened m.code m.code.size = [])
    (there : (m.reset.after k).pc = m.code.size)
    (before : ∀ j < k, (m.reset.after j).pc < m.code.size) : (m.reset.after k).loops = [] := by
  -- The stack is known in front of a stop mark only, so one more instruction is put there.
  have longer : (m.extend #[.nop]).reset.after k = (m.reset.after k).extend #[.nop] :=
    extend_after (m := m.reset) unstopped closed before
  have sound := (Sound.reset (m.extend #[.nop])).after k
  rw [longer] at sound
  have code : (m.reset.after k).code = m.code := code_after k m.reset
  have stack := sound.loops_eq (by simp [extend, there, code])
  simp only [extend, there, code] at stack
  rw [stack, Brackets.bodies, Brackets.opened_append_left le_rfl, closed, List.map_nil]

private theorem eq_of_run_of_at_stop {outcome : Outcome} {last : Machine} {k : Nat}
    (ran : m.run none = some (outcome, last)) (there : (m.reset.after k).pc = m.code.size) :
    last = { m.reset.after k with
      pc := m.length, steps := (m.reset.after k).steps + 1, halted := true } := by
  have code : (m.reset.after k).code = m.code := code_after k m.reset
  obtain ⟨-, stopped, n, rfl⟩ := run_none_eq_some_iff.mp ran
  have halts := Move.halt (current?_of_eq (m := m.reset.after k) (by rw [code, there]))
  have ended : (m.reset.after (k + 1)).current? = none := by
    rw [after_succ, halts.next_eq]
    exact current?_eq_none_iff.mpr le_rfl
  rw [after_eq_after stopped ended, after_succ, halts.next_eq]
  simp only [length, code]

/--
The first program stops nowhere and leaves no loop open. If it ends alone, then the two programs
together are, when all but its last step has been made, at the beginning of the second one, with no
loop entered and with all that the first one leaves behind; and they go on as the second one does
from that tape and that input, with its places moved and with outputs and counters added up. If the
first program does not end, neither do both.
-/
theorem run_append (m : Machine) {front back : List Opcode} (input : List UInt8)
    (unstopped : .halt ∉ front)
    (closed : Brackets.opened front.toArray front.toArray.size = []) :
    let first := (m.load front).feed input
    let both := (m.load (front ++ back)).feed input
    (∀ outcome last, first.run none = some (outcome, last) →
      ∃ n, last.steps = n + 1 ∧
        (both.reset.after n).pc = front.length ∧ (both.reset.after n).loops = [] ∧
        (both.reset.after n).tape = last.tape ∧ (both.reset.after n).output = last.output ∧
        (both.reset.after n).input = last.input ∧
        (both.reset.after n).unmatched = last.unmatched ∧
        ∀ j, both.reset.after (n + j) = (both.reset.after n).continuedBy
          ((starting back last.tape last.input).after j)) ∧
    (first.run none = none → both.run none = none) := by
  intro first both
  have unstopped' : .halt ∉ first.code := by simpa [first, feed, load, reset] using unstopped
  have closed' : Brackets.opened first.code first.code.size = [] := closed
  have size : first.code.size = front.length := List.size_toArray
  have extended : both.reset = first.reset.extend back.toArray := by
    simp [both, first, extend, reset, feed, load]
  have reached {n : Nat} (before : ∀ k < n, (first.reset.after k).pc < first.code.size) :
      both.reset.after n = (first.reset.after n).extend back.toArray := by
    rw [extended]
    exact extend_after (m := first.reset) unstopped' closed' before
  constructor
  · intro outcome last ran
    obtain ⟨-, stopped, n, same⟩ := run_none_eq_some_iff.mp ran
    obtain ⟨k, there, before⟩ := exists_at_stop unstopped' (same ▸ stopped)
    have loops := loops_at_stop unstopped' closed' there before
    have code : (first.reset.after k).code = first.code := code_after k first.reset
    have running : (first.reset.after k).current? ≠ none := by
      rw [Ne, current?_eq_none_iff, length, code]
      omega
    have going : (first.reset.after k).halted = false :=
      ((Sound.reset first).after k).running running
    have steps : (first.reset.after k).steps = k := steps_of_running running
    obtain rfl := eq_of_run_of_at_stop ran there
    refine ⟨k, congrArg (· + 1) steps, ?_⟩
    rw [reached before]
    refine ⟨there.trans size, loops, rfl, rfl, rfl, rfl, fun j => ?_⟩
    rw [after_add, reached before]
    exact after_extend (there.trans (congrArg Array.size code).symm) loops going j
  · intro endless
    have inside := pc_lt_of_endless endless
    rw [run_none_eq_none_iff]
    intro n
    have code : (first.reset.after n).code = first.code := code_after n first.reset
    have left := inside n
    rw [reached fun k _ => inside k, Ne, current?_eq_none_iff]
    simp only [extend, length, Array.size_append, code]
    omega

theorem run_append_counted_down :
    let front := [.read, .loopEnd, .loopStart, .dec, .loopEnd]
    let back := [.inc, .loopStart, .write, .halt]
    let m := new (Tape.blank 1 Nat.one_pos)
    let both := (m.load (front ++ back)).feed [2]
    .halt ∉ front ∧ Brackets.opened front.toArray front.toArray.size = [] ∧
    ∃ last, ((m.load front).feed [2]).run none = some (.halted, last) ∧ last.steps = 7 + 1 ∧
      (both.reset.after 7).pc = 5 ∧ (both.reset.after 7).unmatched = 1 ∧
      both.reset.after (7 + 3) =
        (both.reset.after 7).continuedBy ((starting back last.tape last.input).after 3) ∧
      (both.reset.after (7 + 3)).loops = [5 + 2] := by
  intro front back m both
  have unstopped : .halt ∉ front := by decide
  have closed : Brackets.opened front.toArray front.toArray.size = [] := by decide +kernel
  have ran : ((m.load front).feed [2]).run none =
      some (.halted, ((m.load front).feed [2]).reset.after 8) := by decide +kernel
  have steps : (((m.load front).feed [2]).reset.after 8).steps = 7 + 1 := by decide +kernel
  have unmatched : (((m.load front).feed [2]).reset.after 8).unmatched = 1 := by decide +kernel
  obtain ⟨n, same, pc, -, -, -, -, counted, later⟩ :=
    (@run_append m front back [2] unstopped closed).1 _ _ ran
  obtain rfl : n = 7 := Nat.succ.inj (same.symm.trans steps)
  exact ⟨unstopped, closed, _, ran, steps, pc, counted.trans unmatched, later 3, by decide +kernel⟩

end Run

end Machine

end TapeMachine
