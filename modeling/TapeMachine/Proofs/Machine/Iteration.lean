import TapeMachine.Proofs.Machine.LoopStack

/-!
Loops that count a cell down. Main statement: a loop whose body lowers the cell under the pointer by
one, whenever it is begun, is gone through exactly as often as that cell says. The body may hold
loops of its own; at the end of the loop the top of the stack is the loop's own body again.
-/

set_option autoImplicit false

namespace TapeMachine

namespace Brackets

variable {code : Array Opcode} {start stop i : Nat}

private theorem opened_stop (paired : (start, stop) ∈ loops code) :
    opened code stop = start :: opened code start := by
  obtain ⟨outer, closed⟩ := List.head?_eq_some_iff.mp (mem_loops_iff.mp paired).2
  rw [closed, (of_opened_eq_cons closed).2.2]

private theorem not_suffix_opened_stop (paired : (start, stop) ∈ loops code) (behind : start < i)
    (within : i ≤ stop) : ¬ i :: opened code i <:+ opened code stop := by
  intro still
  rw [opened_stop paired] at still
  have open' : start :: opened code start <:+ opened code i :=
    suffix_opened_of_le behind within (by rw [opened_stop paired])
  have longer := still.length_le
  have shorter := open'.length_le
  simp only [List.length_cons] at longer shorter
  omega

private theorem exists_closing?_lt (paired : (start, stop) ∈ loops code) (behind : start < i)
    (within : i < stop) (here : code[i]? = some .loopStart) :
    ∃ e, closing? code (i + 1) 0 = some e ∧ i < e ∧ e < stop := by
  have before : opened code (i + 1) = [] ++ i :: opened code i := opened_start here
  have inside : stop < code.size :=
    (Array.getElem?_eq_some_iff.mp (mem_loops_iff.mp paired).1).1
  cases found : closing? code (i + 1) 0 with
  | none =>
    exact absurd (suffix_opened_of_closing?_eq_none before found within inside.le)
      (not_suffix_opened_stop paired behind within.le)
  | some e =>
    obtain ⟨le, -, closed⟩ := of_closing?_eq_some before found
    refine ⟨e, rfl, le, ?_⟩
    by_contra late
    have still : i :: opened code i <:+ opened code stop :=
      suffix_opened_of_le within (Nat.le_of_not_lt late) (by rw [closed])
    exact not_suffix_opened_stop paired behind within.le still

private theorem lt_of_opened_eq_cons {inner : Nat} {outer : List Nat}
    (paired : (start, stop) ∈ loops code) (behind : start < i) (within : i < stop)
    (here : code[i]? = some .loopEnd) (top : opened code i = inner :: outer) : start < inner := by
  have open' : start :: opened code start <:+ inner :: outer := by
    rw [← top]
    exact suffix_opened_of_le behind within.le (by rw [opened_stop paired])
  rcases List.suffix_cons_iff.mp open' with same | deeper
  · rw [← same] at top
    exact absurd (opened_stop paired) (opened_ne_of_closed here top within)
  · have order : (opened code i).Pairwise fun a b => b < a := opened_pairwise
    rw [top, List.pairwise_cons] at order
    exact order.1 start (deeper.mem List.mem_cons_self)

end Brackets

namespace Machine

/-- How often a machine stands at a place in front of the first `n` steps. -/
def visits (place : Nat) : Nat → Machine → Nat
  | 0, _ => 0
  | n + 1, m => (if m.pc = place then 1 else 0) + visits place n m.next

/-- A machine comes to a place after `k` steps and not before. -/
structure FirstAt (place k : Nat) (m : Machine) : Prop where
  there : (m.after k).pc = place
  before : ∀ j < k, (m.after j).pc ≠ place

/--
Whenever the body of a loop is begun with the pointer at cell `p` and a positive number of at most
`n` in it, the machine comes to the end of the loop, and then the pointer is at that cell and the
number is one less.
-/
def CountsDown (code : Array Opcode) (capacity start stop p n : Nat) : Prop :=
  ∀ v, 1 ≤ v → v ≤ n → ∀ b : Machine, Reachable b → b.code = code → b.tape.capacity = capacity →
    b.pc = start + 1 → b.tape.pointer = p → b.tape.read.toNat = v →
    ∃ k, FirstAt stop k b ∧ (b.after k).tape.pointer = p ∧ (b.after k).tape.read.toNat = v - 1

/--
A machine gets out of a loop after `t` steps, in which it never leaves the loop and begins its body
`n` times; it stands right behind the loop then, on a zero at the cell where it was.
-/
structure GetsOut (start stop n : Nat) (outer : List Nat) (t : Nat) (m : Machine) : Prop where
  inside : ∀ j < t, start ≤ (m.after j).pc ∧ (m.after j).pc ≤ stop
  behind : (m.after t).pc = stop + 1
  begun : visits (start + 1) t m = n
  pointer : (m.after t).tape.pointer = m.tape.pointer
  zero : (m.after t).tape.read = 0
  loops : (m.after t).loops = outer

variable {m m' : Machine} {start stop : Nat}

theorem Reachable.after (reachable : Reachable m) (n : Nat) : Reachable (m.after n) := by
  induction n with
  | zero => exact reachable
  | succ n ih =>
    have stepped : Reachable (Operation.step.apply (m.after n)).2 := .operate trivial ih
    rwa [apply_step_eq, ← after_succ] at stepped

section Visits

variable {place : Nat}

private theorem visits_add (a b : Nat) (m : Machine) :
    visits place (a + b) m = visits place a m + visits place b (m.after a) := by
  induction a generalizing m with
  | zero => simp [visits, Machine.after]
  | succ a ih =>
    rw [Nat.add_right_comm, visits, ih, visits, Machine.after]
    omega

private theorem visits_eq_zero {n : Nat} (never : ∀ j < n, (m.after j).pc ≠ place) :
    visits place n m = 0 := by
  induction n generalizing m with
  | zero => rfl
  | succ n ih =>
    have here : m.pc ≠ place := never 0 (Nat.zero_lt_succ n)
    rw [visits, if_neg here, Nat.zero_add]
    exact ih fun j less => never (j + 1) (Nat.succ_lt_succ less)

end Visits

section Body

private theorem Sound.pc_of_move_inside (sound : Sound m)
    (paired : (start, stop) ∈ Brackets.loops m.code)
    (behind : start < m.pc) (within : m.pc < stop) (move : Move m m')
    (left : m'.current? ≠ none) : start + 1 < m'.pc ∧ m'.pc ≤ stop := by
  cases move with
  | skip e here zero found =>
    obtain ⟨e', found', less, before⟩ :=
      Brackets.exists_closing?_lt paired behind within (getElem?_of_current? here (by decide))
    obtain rfl : e = e' := Option.some.inj (found.symm.trans found')
    constructor <;> simp only <;> omega
  | abandon here zero missing =>
    obtain ⟨e, found, -⟩ :=
      Brackets.exists_closing?_lt paired behind within (getElem?_of_current? here (by decide))
    rw [missing] at found
    contradiction
  | again body outer here entered nonzero =>
    have stack := sound.loops_eq (lt_of_current? here (by decide))
    rw [entered, Brackets.bodies] at stack
    obtain ⟨inner, rest, top, rfl, rfl⟩ := List.map_eq_cons_iff.mp stack.symm
    have less := Brackets.lt_of_opened_eq_cons paired behind within
      (getElem?_of_current? here (by decide)) top
    have before := (Brackets.of_opened_eq_cons top).1
    constructor <;> simp only <;> omega
  | halt here => exact absurd (current?_eq_none_iff.mpr le_rfl) left
  | _ => constructor <;> simp only <;> omega

private theorem FirstAt.inside {k j : Nat} (first : FirstAt stop k m) (sound : Sound m)
    (paired : (start, stop) ∈ Brackets.loops m.code) (begins : m.pc = start + 1) (later : 0 < j)
    (le : j ≤ k) : start + 1 < (m.after j).pc ∧ (m.after j).pc ≤ stop := by
  have running (i : Nat) (le : i ≤ k) : (m.after i).current? ≠ none := by
    intro stopped
    have ended := current?_after_eq_none_of_le stopped le
    have ends := (Array.getElem?_eq_some_iff.mp (Brackets.mem_loops_iff.mp paired).1).1
    rw [current?_eq_none_iff, length, first.there, code_after] at ended
    omega
  have least : start + 1 ≤ stop := (Brackets.of_opened_eq_cons (Brackets.opened_stop paired)).1
  have step (i : Nat) (less : i < k) (behind : start < (m.after i).pc)
      (le : (m.after i).pc ≤ stop) :
      start + 1 < (m.after (i + 1)).pc ∧ (m.after (i + 1)).pc ≤ stop := by
    have before := first.before i less
    have left := running (i + 1) less
    rw [after_succ] at left ⊢
    exact (sound.after i).pc_of_move_inside (by rwa [code_after]) behind (by omega)
      (move_next (running i less.le)) left
  induction j, later using Nat.le_induction with
  | base => exact step 0 le (by rw [Machine.after]; omega) (by rw [Machine.after]; omega)
  | succ j _ ih =>
    obtain ⟨behind, within⟩ := ih (by omega)
    exact step j le (by omega) within

private theorem Sound.loops_at_end (sound : Sound m)
    (paired : (start, stop) ∈ Brackets.loops m.code)
    (there : m.pc = stop) : m.loops = (start + 1) :: Brackets.bodies m.code start := by
  have ends := (Array.getElem?_eq_some_iff.mp (Brackets.mem_loops_iff.mp paired).1).1
  rw [sound.loops_eq (by rwa [there]), there, Brackets.bodies, Brackets.opened_stop paired]
  rfl

end Body

section Loop

variable {code : Array Opcode} {outer : List Nat} {capacity p n v a t : Nat}

private theorem GetsOut.prepend {c : Nat}
    (inside : ∀ j < a, start ≤ (m.after j).pc ∧ (m.after j).pc ≤ stop)
    (begun : visits (start + 1) a m = c) (pointer : (m.after a).tape.pointer = m.tape.pointer)
    (rest : GetsOut start stop n outer t (m.after a)) :
    GetsOut start stop (c + n) outer (a + t) m where
  inside := by
    intro j less
    by_cases early : j < a
    · exact inside j early
    · obtain ⟨d, rfl⟩ := Nat.exists_eq_add_of_le (Nat.le_of_not_lt early)
      rw [after_add]
      exact rest.inside d (by omega)
  behind := by rw [after_add, rest.behind]
  begun := by rw [visits_add, begun, rest.begun]
  pointer := by rw [after_add, rest.pointer, pointer]
  zero := by rw [after_add, rest.zero]
  loops := by rw [after_add, rest.loops]

private theorem FirstAt.visits_eq_one {k : Nat} (first : FirstAt stop k m) (sound : Sound m)
    (paired : (start, stop) ∈ Brackets.loops m.code) (begins : m.pc = start + 1) :
    visits (start + 1) (k + 1) m = 1 ∧
      ∀ j < k + 1, start ≤ (m.after j).pc ∧ (m.after j).pc ≤ stop := by
  have inside {j : Nat} (later : 0 < j) (le : j ≤ k) :=
    first.inside sound paired begins later le
  constructor
  · have again : visits (start + 1) k m.next = 0 := by
      apply visits_eq_zero
      intro j less
      have far : start + 1 < (m.next.after j).pc := (inside (Nat.succ_pos j) less).1
      omega
    rw [visits, if_pos begins, again]
  · intro j less
    rcases Nat.eq_zero_or_pos j with rfl | later
    · have least := (Brackets.of_opened_eq_cons (Brackets.opened_stop paired)).1
      rw [Machine.after]
      omega
    · have := inside later (Nat.le_of_lt_succ less)
      omega

private theorem exists_getsOut_of_body (counts : CountsDown code capacity start stop p n)
    (paired : (start, stop) ∈ Brackets.loops code) (pos : 1 ≤ v) (le : v ≤ n)
    (reachable : Reachable m) (same : m.code = code) (cells : m.tape.capacity = capacity)
    (begins : m.pc = start + 1) (pointer : m.tape.pointer = p) (reads : m.tape.read.toNat = v) :
    ∃ t, GetsOut start stop v (Brackets.bodies code start) t m := by
  -- The induction is on the number in the cell: once through the body, and the loop end decides.
  induction v generalizing m with
  | zero => omega
  | succ v ih =>
    obtain ⟨k, first, pointer', reads'⟩ :=
      counts (v + 1) pos le m reachable same cells begins pointer reads
    have sound := Sound.of_reachable reachable
    have paired' : (start, stop) ∈ Brackets.loops m.code := by rwa [same]
    obtain ⟨begun, inside⟩ := first.visits_eq_one sound paired' begins
    have code' : (m.after k).code = code := (code_after k m).trans same
    have here : (m.after k).current? = some .loopEnd := by
      have ends := (Brackets.mem_loops_iff.mp paired).1
      rw [current?_of_lt]
      · rw [first.there, code', ends]
      · rw [first.there, code']
        exact (Array.getElem?_eq_some_iff.mp ends).1
    have entered : (m.after k).loops = (start + 1) :: Brackets.bodies code start := by
      have stack := (sound.after k).loops_at_end (by rwa [code']) first.there
      rwa [code'] at stack
    rw [Nat.add_comm v 1]
    rcases Nat.eq_zero_or_pos v with rfl | more
    · have zero : (m.after k).tape.read = 0 := UInt8.toNat_inj.mp reads'
      have left : m.after (k + 1) = _ :=
        (after_succ k m).trans (Move.leave _ _ here entered zero).next_eq
      have out : GetsOut start stop 0 (Brackets.bodies code start) 0 (m.after (k + 1)) := by
        rw [left]
        exact ⟨fun j less => absurd less (Nat.not_lt_zero j),
          congrArg (· + 1) first.there, rfl, rfl, zero, rfl⟩
      exact ⟨_, .prepend inside begun (by rw [left, pointer, ← pointer']) out⟩
    · have nonzero : (m.after k).tape.read ≠ 0 := by
        intro zero
        rw [zero] at reads'
        exact Nat.ne_of_lt more reads'
      have again : m.after (k + 1) = _ :=
        (after_succ k m).trans (Move.again _ _ here entered nonzero).next_eq
      obtain ⟨t, out⟩ := ih more (by omega) (reachable.after (k + 1))
        ((code_after _ m).trans same) ((capacity_after _ m).trans cells) (by rw [again])
        (by rw [again]; exact pointer') (by rw [again]; exact reads')
      exact ⟨_, .prepend inside begun (by rw [again, pointer, ← pointer']) out⟩

/--
A machine at the start of a loop begins its body as often as the cell under the pointer says, if the
body counts that cell down, and gets out behind the loop, with a zero in that cell, the pointer at
it and the stack as it was. On a zero it gets there in one step and begins the body not once, and
nothing changes but the program counter and the count of steps.
-/
theorem body_begun_as_often_as_cell (reachable : Reachable m)
    (paired : (start, stop) ∈ Brackets.loops m.code) (here : m.pc = start) :
    (1 ≤ m.tape.read.toNat →
      CountsDown m.code m.tape.capacity start stop m.tape.pointer m.tape.read.toNat →
      ∃ t, GetsOut start stop m.tape.read.toNat m.loops t m) ∧
    (m.tape.read.toNat = 0 → m.after 1 = { m with pc := stop + 1, steps := m.steps + 1 } ∧
      GetsOut start stop 0 m.loops 1 m) := by
  have sound := Sound.of_reachable reachable
  have begins := (Brackets.of_opened_eq_cons (Brackets.opened_stop paired)).2.1
  have less := (Brackets.of_opened_eq_cons (Brackets.opened_stop paired)).1
  have inside : m.pc < m.code.size := by
    rw [here]
    exact (Array.getElem?_eq_some_iff.mp begins).1
  have current : m.current? = some .loopStart := by rw [current?_of_lt inside, here, begins]
  have stack : m.loops = Brackets.bodies m.code start := by rw [sound.loops_eq inside, here]
  have atStart : ∀ j < 1, start ≤ (m.after j).pc ∧ (m.after j).pc ≤ stop := by
    intro j first
    obtain rfl := Nat.lt_one_iff.mp first
    exact ⟨here.ge, here.le.trans less.le⟩
  have elsewhere : visits (start + 1) 1 m = 0 := by
    simp [visits, here]
  constructor
  · intro pos counts
    have nonzero : m.tape.read ≠ 0 := by
      intro zero
      rw [zero] at pos
      exact absurd pos (by decide)
    have entered : m.after 1 = _ := (Move.enter current nonzero).next_eq
    obtain ⟨t, out⟩ := exists_getsOut_of_body counts paired pos le_rfl (reachable.after 1)
      (code_after 1 m) (capacity_after 1 m) (by rw [entered, here]) (by rw [entered])
      (by rw [entered])
    rw [← stack] at out
    have whole := GetsOut.prepend atStart elsewhere (by rw [entered]) out
    rw [Nat.zero_add] at whole
    exact ⟨_, whole⟩
  · intro zero
    have zero : m.tape.read = 0 := UInt8.toNat_inj.mp zero
    have found := Brackets.closing?_of_mem_loops paired
    rw [← here] at found
    have skipped : m.after 1 = _ := (Move.skip stop current zero found).next_eq
    refine ⟨skipped, atStart, ?_, elsewhere, ?_, ?_, ?_⟩ <;> rw [skipped]
    exact zero

end Loop

section Straight

private theorem after_plain {ps : List Plain}
    (stand : ∀ j, ∀ p ∈ ps[j]?, m.code[m.pc + j]? = some p.opcode) :
    (∀ j ≤ ps.length, (m.after j).pc = m.pc + j) ∧
      (m.after ps.length).contents = ps.foldl (fun c p => p.effect c) m.contents := by
  induction ps generalizing m with
  | nil =>
    refine ⟨fun j none => ?_, rfl⟩
    obtain rfl := Nat.le_zero.mp none
    rfl
  | cons p ps ih =>
    have here : m.code[m.pc]? = some p.opcode := stand 0 p rfl
    have current : m.current? = some p.opcode := by
      rw [current?_of_lt (Array.getElem?_eq_some_iff.mp here).1, here]
    obtain ⟨tape, input, output, effect, -⟩ := m.execute_plain p
    have moved := (Move.plain p tape input output current effect).next_eq
    have rest : ∀ j, ∀ q ∈ ps[j]?, m.next.code[m.next.pc + j]? = some q.opcode := by
      intro j q there
      rw [moved, ← stand (j + 1) q there]
      simp only [Nat.add_assoc, Nat.add_comm 1 j]
    obtain ⟨places, final⟩ := ih rest
    constructor
    · intro j le
      cases j with
      | zero => rfl
      | succ j =>
        rw [Machine.after, places j (Nat.le_of_succ_le_succ le), moved]
        simp only
        omega
    · have first : m.next.contents = p.effect m.contents := by rw [moved, ← effect, contents]
      rw [List.length_cons, Machine.after, final, first, List.foldl_cons]

private theorem countsDown_moving :
    CountsDown #[.inc, .inc, .loopStart, .dec, .ptrRight, .inc, .ptrLeft, .loopEnd] 2 2 7 0 2 := by
  intro v pos le b _ code capacity begins pointer reads
  have stand : ∀ j, ∀ p ∈ [Plain.dec, .ptrRight, .inc, .ptrLeft][j]?,
      b.code[b.pc + j]? = some p.opcode := by
    rw [code, begins]
    intro j p there
    match j, there with
    | 0, rfl => rfl
    | 1, rfl => rfl
    | 2, rfl => rfl
    | 3, rfl => rfl
  obtain ⟨places, final⟩ := after_plain stand
  obtain ⟨x, y, cells⟩ : ∃ x y, b.contents.cells = [x, y] := by
    rw [← List.length_eq_two, contents, Contents.cells_of, List.length_map]
    exact capacity
  have first : x = v := by
    rw [← reads, ← cell_contents, Contents.cell, cells, show b.contents.pointer = 0 from pointer]
    rfl
  have whole : b.contents = ⟨[x, y], 0, b.contents.input, b.contents.output⟩ :=
    Contents.ext cells pointer rfl rfl
  rw [whole] at final
  have below : v < 256 := reads ▸ b.tape.read.toNat_lt
  refine ⟨4, ⟨?_, ?_⟩, ?_, ?_⟩
  · rw [places 4 le_rfl, begins]
  · intro j less
    have early : j ≤ 4 := Nat.le_of_lt less
    rw [places j early, begins]
    omega
  · exact congrArg Contents.pointer final
  · rw [← cell_contents]
    have cell : (b.after 4).contents.cell = (x + 255) % 256 := congrArg Contents.cell final
    rw [cell]
    omega

theorem body_begun_as_often_as_cell_moving :
    let loaded := ((Operation.loadCodes (.list [.int 1, .int 1, .int 7, .int 2, .int 4, .int 1,
      .int 3, .int 8])).apply (new (Tape.blank 2 Nat.two_pos))).2
    let m := (Operation.step.apply (Operation.step.apply loaded).2).2
    Reachable m ∧ (2, 7) ∈ Brackets.loops m.code ∧ m.pc = 2 ∧ 1 ≤ m.tape.read.toNat ∧
      CountsDown m.code m.tape.capacity 2 7 m.tape.pointer m.tape.read.toNat ∧
      ∃ t, GetsOut 2 7 2 [] t m := by
  intro loaded m
  have start : Reachable loaded := .restart trivial rfl
  have reachable : Reachable m := .operate trivial (.operate trivial start)
  have paired : (2, 7) ∈ Brackets.loops m.code := by decide +kernel
  have pc : m.pc = 2 := by decide +kernel
  have two : m.tape.read.toNat = 2 := by decide +kernel
  have counts : CountsDown m.code m.tape.capacity 2 7 m.tape.pointer m.tape.read.toNat := by
    have code : m.code =
        #[.inc, .inc, .loopStart, .dec, .ptrRight, .inc, .ptrLeft, .loopEnd] := by decide +kernel
    have capacity : m.tape.capacity = 2 := by decide +kernel
    have pointer : m.tape.pointer = 0 := by decide +kernel
    rw [code, capacity, pointer, two]
    exact countsDown_moving
  have pos : 1 ≤ m.tape.read.toNat := by
    rw [two]
    decide
  obtain ⟨t, out⟩ := (body_begun_as_often_as_cell reachable paired pc).1 pos counts
  have loops : m.loops = [] := by decide +kernel
  rw [two, loops] at out
  exact ⟨reachable, paired, pc, pos, counts, t, out⟩

end Straight

end Machine

end TapeMachine
