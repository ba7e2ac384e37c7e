import TapeMachine.Proofs.Block
import TapeMachine.Proofs.Machine.Halting

/-!
What blocks do to contents, without a program counter and without a stack. Main statement: a run
of a program whose brackets are balanced ends exactly when its block runs to some contents, and
then it leaves these behind.
-/

set_option autoImplicit false

namespace TapeMachine

/-- Running a block leads from some contents to others; if it never ends, it leads nowhere. -/
inductive Block.Runs : Block → Contents → Contents → Prop
  | done {c : Contents} : Runs .done c c
  | plain {p : Plain} {rest : Block} {c c' : Contents} (more : Runs rest (p.effect c) c') :
      Runs (.plain p rest) c c'
  | exit {body rest : Block} {c c' : Contents} (zero : c.cell = 0) (more : Runs rest c c') :
      Runs (.loop body rest) c c'
  | again {body rest : Block} {c c' c'' : Contents} (nonzero : c.cell ≠ 0)
      (once : Runs body c c') (more : Runs (.loop body rest) c' c'') :
      Runs (.loop body rest) c c''

private theorem Block.length_code_plain (p : Plain) (rest : Block) :
    (plain p rest).code.length = 1 + rest.code.length := Nat.add_comm _ _

private theorem Block.length_code_loop (body rest : Block) :
    (loop body rest).code.length = 1 + body.code.length + 1 + rest.code.length := by
  simp only [code, List.length_cons, List.length_append]
  omega

namespace Brackets

/-- The instructions stand in the code from position `i` on. -/
def Stands (code : Array Opcode) : Nat → List Opcode → Prop
  | _, [] => True
  | i, op :: ops => code[i]? = some op ∧ Stands code (i + 1) ops

private theorem stands_append {code : Array Opcode} {i : Nat} {xs ys : List Opcode} :
    Stands code i (xs ++ ys) ↔ Stands code i xs ∧ Stands code (i + xs.length) ys := by
  induction xs generalizing i with
  | nil => simp [Stands]
  | cons op xs ih =>
    rw [List.cons_append, Stands, Stands, ih, List.length_cons, and_assoc,
      show i + 1 + xs.length = i + (xs.length + 1) by omega]

private theorem stands_of_toList_eq {code : Array Opcode} {xs ys : List Opcode}
    (split : code.toList = xs ++ ys) : Stands code xs.length ys := by
  induction ys generalizing xs with
  | nil => trivial
  | cons op ys ih =>
    constructor
    · rw [← Array.getElem?_toList, split, List.getElem?_append_right le_rfl, Nat.sub_self]
      rfl
    · have later : Stands code (xs ++ [op]).length ys :=
        ih (by rw [split, List.append_assoc, List.singleton_append])
      rwa [List.length_append] at later

private theorem stands_toList (code : Array Opcode) : Stands code 0 code.toList :=
  stands_of_toList_eq (List.nil_append _).symm

private theorem closing?_block {code : Array Opcode} {b : Block} {i d : Nat}
    (stands : Stands code i b.code) : closing? code i d = closing? code (i + b.code.length) d := by
  induction b generalizing i d with
  | done => rfl
  | plain p rest ih =>
    obtain ⟨here, more⟩ := stands
    have inside : i < code.size := (Array.getElem?_eq_some_iff.mp here).1
    have start : code[i]? ≠ some .loopStart := by simp [here, p.opcode_ne_loopStart]
    have stop : code[i]? ≠ some .loopEnd := by simp [here, p.opcode_ne_loopEnd]
    rw [closing?_other inside start stop, ih more, Block.length_code_plain, Nat.add_assoc]
  | loop body rest ihBody ihRest =>
    obtain ⟨start, inside⟩ := stands
    obtain ⟨inside, stop, more⟩ := stands_append.mp inside
    rw [closing?_start start, ihBody inside, closing?_end_succ stop, ihRest more,
      Block.length_code_loop]
    simp only [Nat.add_assoc]

end Brackets

namespace Machine

open Brackets (Stands)

/-- A machine has come from `m` to a place, with the given loops entered on the way. -/
private structure Arrives (pc : Nat) (loops : List Nat) (m m' : Machine) : Prop where
  pc : m'.pc = pc
  loops : m'.loops = loops
  code : m'.code = m.code
  halted : m'.halted = m.halted
  unmatched : m'.unmatched = m.unmatched

private theorem Arrives.trans {p q : Nat} {ps qs : List Nat} {a b c : Machine}
    (first : Arrives p ps a b) (second : Arrives q qs b c) : Arrives q qs a c :=
  ⟨second.pc, second.loops, second.code.trans first.code, second.halted.trans first.halted,
    second.unmatched.trans first.unmatched⟩

/--
A machine that still has to run a block: it stands in front of it, or, when the block begins with a
loop, at the end of that loop.
-/
private inductive Faces (start : Nat) (outer : List Nat) (m : Machine) : Block → Prop
  | front {b : Block} (pc : m.pc = start) (loops : m.loops = outer) : Faces start outer m b
  | back {body rest : Block} (pc : m.pc = start + 1 + body.code.length)
      (loops : m.loops = (start + 1) :: outer) : Faces start outer m (.loop body rest)

variable {m : Machine} {start : Nat} {outer : List Nat}

private theorem current?_of_stands {op : Opcode} {ops : List Opcode}
    (stands : Stands m.code m.pc (op :: ops)) : m.current? = some op := by
  have inside := (Array.getElem?_eq_some_iff.mp stands.1).1
  rw [current?_of_lt inside]
  exact stands.1

private theorem move_plain {p : Plain} {rest : Block}
    (stands : Stands m.code start (Block.plain p rest).code)
    (faces : Faces start outer m (.plain p rest)) :
    m.current? ≠ none ∧ Arrives (start + 1) outer m m.next ∧
      m.next.contents = p.effect m.contents := by
  obtain ⟨rfl, rfl⟩ := faces
  have here : m.current? = some p.opcode := current?_of_stands stands
  obtain ⟨tape, input, output, effect, -⟩ := m.execute_plain p
  have move := Move.plain p tape input output here effect
  rw [move.next_eq]
  exact ⟨move.running, ⟨rfl, rfl, rfl, rfl, rfl⟩, effect⟩

private theorem move_exit {body rest : Block}
    (stands : Stands m.code start (Block.loop body rest).code)
    (faces : Faces start outer m (.loop body rest)) (zero : m.contents.cell = 0) :
    m.current? ≠ none ∧ Arrives (start + 1 + body.code.length + 1) outer m m.next ∧
      m.next.contents = m.contents := by
  have zero := m.cell_contents_eq_zero.mp zero
  obtain ⟨begins, inside⟩ := stands
  obtain ⟨within, behind⟩ := Brackets.stands_append.mp inside
  cases faces with
  | front pc loops =>
    subst pc
    have here : m.current? = some .loopStart := current?_of_stands ⟨begins, inside⟩
    have found := (Brackets.closing?_block (d := 0) within).trans
      (Brackets.closing?_end_zero behind.1)
    have move := Move.skip _ here zero found
    rw [move.next_eq]
    exact ⟨move.running, ⟨rfl, loops, rfl, rfl, rfl⟩, rfl⟩
  | back pc loops =>
    rw [← pc] at behind ⊢
    have move := Move.leave _ _ (current?_of_stands behind) loops zero
    rw [move.next_eq]
    exact ⟨move.running, ⟨rfl, rfl, rfl, rfl, rfl⟩, rfl⟩

private theorem move_again {body rest : Block}
    (stands : Stands m.code start (Block.loop body rest).code)
    (faces : Faces start outer m (.loop body rest)) (nonzero : m.contents.cell ≠ 0) :
    m.current? ≠ none ∧ Arrives (start + 1) ((start + 1) :: outer) m m.next ∧
      m.next.contents = m.contents := by
  have nonzero := mt m.cell_contents_eq_zero.mpr nonzero
  obtain ⟨begins, inside⟩ := stands
  obtain ⟨within, behind⟩ := Brackets.stands_append.mp inside
  cases faces with
  | front pc loops =>
    subst pc loops
    have move := Move.enter (current?_of_stands ⟨begins, inside⟩) nonzero
    rw [move.next_eq]
    exact ⟨move.running, ⟨rfl, rfl, rfl, rfl, rfl⟩, rfl⟩
  | back pc loops =>
    rw [← pc] at behind
    have move := Move.again _ _ (current?_of_stands behind) loops nonzero
    rw [move.next_eq]
    exact ⟨move.running, ⟨rfl, loops, rfl, rfl, rfl⟩, rfl⟩

private theorem exists_after_of_runs {b : Block} {c c' : Contents} (runs : b.Runs c c')
    (stands : Stands m.code start b.code) (faces : Faces start outer m b)
    (holds : m.contents = c) :
    ∃ n, Arrives (start + b.code.length) outer m (m.after n) ∧ (m.after n).contents = c' := by
  induction runs generalizing m start outer with
  | done =>
    obtain ⟨pc, loops⟩ := faces
    exact ⟨0, ⟨pc, loops, rfl, rfl, rfl⟩, holds⟩
  | plain more ih =>
    obtain ⟨-, arrives, contents⟩ := move_plain stands faces
    obtain ⟨n, behind, final⟩ := ih (arrives.code.symm ▸ stands.2)
      (.front arrives.pc arrives.loops) (by rw [contents, holds])
    rw [Block.length_code_plain, ← Nat.add_assoc]
    exact ⟨n + 1, arrives.trans behind, final⟩
  | exit zero more ih =>
    obtain ⟨-, arrives, contents⟩ := move_exit stands faces (holds ▸ zero)
    have behindLoop := (Brackets.stands_append.mp stands.2).2.2
    obtain ⟨n, behind, final⟩ := ih (arrives.code.symm ▸ behindLoop)
      (.front arrives.pc arrives.loops) (contents.trans holds)
    rw [Block.length_code_loop]
    simp only [← Nat.add_assoc]
    exact ⟨n + 1, arrives.trans behind, final⟩
  | again nonzero once more ihOnce ihMore =>
    obtain ⟨-, arrives, contents⟩ := move_again stands faces (holds ▸ nonzero)
    have inLoop := (Brackets.stands_append.mp stands.2).1
    obtain ⟨n, round, between⟩ := ihOnce (arrives.code.symm ▸ inLoop)
      (.front arrives.pc arrives.loops) (contents.trans holds)
    have sofar := arrives.trans round
    obtain ⟨k, behind, final⟩ := ihMore (sofar.code.symm ▸ stands)
      (.back sofar.pc sofar.loops) between
    rw [← after_add] at behind final
    exact ⟨n + k + 1, sofar.trans behind, final⟩

private theorem exists_runs_of_after {n : Nat} {b : Block}
    (stands : Stands m.code start b.code) (faces : Faces start outer m b)
    (ended : (m.after n).current? = none) :
    ∃ k ≤ n, Arrives (start + b.code.length) outer m (m.after k) ∧
      b.Runs m.contents (m.after k).contents := by
  induction n using Nat.strong_induction_on generalizing m start outer b with
  | _ n ih =>
    -- In front of anything but the end of a block there is one step less to go after a move.
    have shorter (left : m.current? ≠ none) :
        ∃ n', n = n' + 1 ∧ (m.next.after n').current? = none := by
      cases n with
      | zero => exact absurd ended left
      | succ n' => exact ⟨n', rfl, ended⟩
    cases b with
    | done =>
      obtain ⟨pc, loops⟩ := faces
      exact ⟨0, Nat.zero_le _, ⟨pc, loops, rfl, rfl, rfl⟩, .done⟩
    | plain p rest =>
      obtain ⟨left, arrives, contents⟩ := move_plain stands faces
      obtain ⟨n', rfl, stopped⟩ := shorter left
      obtain ⟨k, le, behind, more⟩ := ih n' (Nat.lt_succ_self _) (arrives.code.symm ▸ stands.2)
        (.front arrives.pc arrives.loops) stopped
      rw [Block.length_code_plain, ← Nat.add_assoc]
      exact ⟨k + 1, Nat.succ_le_succ le, arrives.trans behind, .plain (contents ▸ more)⟩
    | loop body rest =>
      by_cases zero : m.contents.cell = 0
      · obtain ⟨left, arrives, contents⟩ := move_exit stands faces zero
        obtain ⟨n', rfl, stopped⟩ := shorter left
        have behindLoop := (Brackets.stands_append.mp stands.2).2.2
        obtain ⟨k, le, behind, more⟩ := ih n' (Nat.lt_succ_self _)
          (arrives.code.symm ▸ behindLoop) (.front arrives.pc arrives.loops) stopped
        rw [Block.length_code_loop]
        simp only [← Nat.add_assoc]
        exact ⟨k + 1, Nat.succ_le_succ le, arrives.trans behind, .exit zero (contents ▸ more)⟩
      · obtain ⟨left, arrives, contents⟩ := move_again stands faces zero
        obtain ⟨n', rfl, stopped⟩ := shorter left
        have inLoop := (Brackets.stands_append.mp stands.2).1
        obtain ⟨k, le, round, once⟩ := ih n' (Nat.lt_succ_self _) (arrives.code.symm ▸ inLoop)
          (.front arrives.pc arrives.loops) stopped
        obtain ⟨d, rfl⟩ := Nat.exists_eq_add_of_le le
        rw [after_add] at stopped
        have sofar := arrives.trans round
        obtain ⟨j, le', behind, more⟩ := ih d (by omega) (sofar.code.symm ▸ stands)
          (.back sofar.pc sofar.loops) stopped
        rw [← after_add] at behind more
        exact ⟨k + j + 1, by omega, sofar.trans behind, .again zero (contents ▸ once) more⟩

private theorem halt_behind {a : Machine} (arrives : Arrives (0 + m.code.size) [] m.reset a) :
    a.next.current? = none ∧ a.next.contents = a.contents ∧ a.next.pc = m.program.size ∧
      a.next.halted = true ∧ a.next.loops = [] ∧ a.next.unmatched = 0 := by
  have code : a.code = m.code := arrives.code
  have here : a.current? = some .halt := by
    apply current?_of_eq
    rw [arrives.pc, code, Nat.zero_add]
  have size : a.length = m.program.size := by rw [length, code, program, Array.size_push]
  rw [(Move.halt here).next_eq]
  exact ⟨current?_eq_none_iff.mpr le_rfl, rfl, size, rfl, arrives.loops, arrives.unmatched⟩

/--
A program with balanced brackets and no stop of its own is the code of a block. It ends exactly when
the block leads somewhere from a tape of zeros, the pending input and no output; the contents that
it leaves behind are then those that the block leads to.
-/
theorem run_iff_runs (balanced : Balanced m.code.toList) (unstopped : .halt ∉ m.code.toList) :
    ∃ b, Block.parse m.code.toList = some b ∧ b.code = m.code.toList ∧
      ((∃ result, m.run none = some result) ↔
        ∃ c, b.Runs (.initial m.tape.capacity m.input) c) ∧
      ∀ outcome last, m.run none = some (outcome, last) → outcome = .halted ∧
        (∀ c, b.Runs (.initial m.tape.capacity m.input) c ↔ c = last.contents) ∧
        last.pc = m.program.size ∧ last.halted = true ∧ last.loops = [] ∧ last.unmatched = 0 := by
  obtain ⟨b, parsed⟩ := Block.exists_parse balanced unstopped
  have code := Block.code_of_parse parsed
  have stands : Stands m.reset.code 0 b.code := code ▸ Brackets.stands_toList m.code
  have faces : Faces 0 [] m.reset b := .front rfl rfl
  have length : b.code.length = m.code.size := by rw [code, Array.length_toList]
  have forward (c : Contents) (runs : b.Runs (.initial m.tape.capacity m.input) c) :
      ∃ a n, a = m.reset.after n ∧ Arrives (0 + m.code.size) [] m.reset a ∧ a.contents = c ∧
        m.run none = some (.halted, a.next) := by
    obtain ⟨n, arrives, final⟩ := exists_after_of_runs runs stands faces (contents_reset m)
    rw [length] at arrives
    exact ⟨_, n, rfl, arrives, final, run_none_eq_some_iff.mpr
      ⟨rfl, (halt_behind arrives).1, n + 1, (after_succ n m.reset).symm⟩⟩
  have backward (outcome : Outcome) (last : Machine)
      (ran : m.run none = some (outcome, last)) :
      ∃ a, last = a.next ∧ Arrives (0 + m.code.size) [] m.reset a ∧
        b.Runs (.initial m.tape.capacity m.input) a.contents := by
    obtain ⟨-, stopped, n, rfl⟩ := run_none_eq_some_iff.mp ran
    obtain ⟨k, -, arrives, runs⟩ := exists_runs_of_after stands faces stopped
    rw [contents_reset] at runs
    rw [length] at arrives
    have halts := (halt_behind arrives).1
    rw [← after_succ] at halts
    exact ⟨_, (after_eq_after stopped halts).trans (after_succ k _), arrives, runs⟩
  refine ⟨b, parsed, code, ⟨?_, ?_⟩, ?_⟩
  · rintro ⟨⟨outcome, last⟩, ran⟩
    obtain ⟨a, -, -, runs⟩ := backward outcome last ran
    exact ⟨a.contents, runs⟩
  · rintro ⟨c, runs⟩
    obtain ⟨a, -, -, -, -, ran⟩ := forward c runs
    exact ⟨_, ran⟩
  · intro outcome last ran
    obtain ⟨a, rfl, arrives, runs⟩ := backward outcome last ran
    obtain ⟨-, same, pc, halted, loops, unmatched⟩ := halt_behind arrives
    refine ⟨(run_none_eq_some_iff.mp ran).1, fun c => ⟨fun other => ?_, fun equal => ?_⟩, pc,
      halted, loops, unmatched⟩
    · obtain ⟨a', n, -, arrives', rfl, ran'⟩ := forward c other
      obtain ⟨-, next⟩ := Prod.mk.inj (Option.some.inj (ran.symm.trans ran'))
      rw [next, (halt_behind arrives').2.1]
    · rw [equal, same]
      exact runs

theorem run_iff_runs_counted_down :
    let m := (new (Tape.blank 1 Nat.one_pos)).load [.inc, .loopStart, .dec, .loopEnd, .write]
    ∃ last, m.run none = some (.halted, last) ∧ last.contents = ⟨[0], 0, [], [0]⟩ ∧
      last.pc = 6 ∧ last.loops = [] := by
  intro m
  obtain ⟨b, parsed, -, ends, leaves⟩ := run_iff_runs (m := m) (by decide) (by decide)
  obtain rfl : .plain .inc (.loop (.plain .dec .done) (.plain .write .done)) = b :=
    Option.some.inj parsed
  have zero : (Contents.mk [0] 0 [] []).cell = 0 := rfl
  have runs : Block.Runs (.plain .inc (.loop (.plain .dec .done) (.plain .write .done)))
      (.initial 1 []) ⟨[0], 0, [], [0]⟩ :=
    .plain (.again (by decide) (.plain .done) (.exit zero (.plain .done)))
  obtain ⟨⟨outcome, last⟩, ran⟩ := ends.mpr ⟨_, runs⟩
  obtain ⟨rfl, same, pc, -, loops, -⟩ := leaves outcome last ran
  exact ⟨last, ran, ((same _).mp runs).symm, pc, loops⟩

end Machine

end TapeMachine
