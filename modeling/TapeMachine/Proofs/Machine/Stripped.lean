import TapeMachine.Proofs.Machine.Halting

/-!
Programs with the instructions taken out that do nothing. Main statement: such a program ends
exactly when the one it was made from does, it leaves the same behind, and its steps fall short by
as many as there were instructions that did nothing.
-/

set_option autoImplicit false

namespace TapeMachine

def Opcode.symbols : List Char := ['+', '-', '<', '>', ',', '.', '[', ']']

/-- Instructions without those that do nothing. -/
def Opcode.stripped (ops : List Opcode) : List Opcode := ops.filter (· ≠ .nop)

theorem Opcode.ofChar_ne_nop_iff (c : Char) : ofChar c ≠ .nop ↔ c ∈ symbols := by
  unfold ofChar symbols
  split <;> simp_all

private theorem Opcode.stripped_ofSource (source : List Char) :
    stripped (ofSource source) = ofSource (source.filter (· ∈ symbols)) := by
  rw [stripped, ofSource, ofSource, List.filter_map]
  congr 1
  apply List.filter_congr
  intro c _
  exact decide_eq_decide.mpr (ofChar_ne_nop_iff c)

namespace Brackets

def bare (code : Array Opcode) : Array Opcode := (Opcode.stripped code.toList).toArray

/-- Where a position in code comes to stand once what does nothing has been taken out. -/
def place (code : Array Opcode) (i : Nat) : Nat :=
  (Opcode.stripped ((code.push .halt).toList.take i)).length

variable {code : Array Opcode} {i d : Nat} {op : Opcode}

private theorem getElem?_push_of (here : code[i]? = some op) :
    (code.push .halt)[i]? = some op := by
  obtain ⟨inside, same⟩ := Array.getElem?_eq_some_iff.mp here
  rw [Array.getElem?_push_lt inside, same]

private theorem toList_push_bare :
    ((bare code).push .halt).toList = Opcode.stripped (code.push .halt).toList := by
  simp [bare, Opcode.stripped]

private theorem take_succ_program (here : (code.push .halt)[i]? = some op) :
    (code.push .halt).toList.take (i + 1) = (code.push .halt).toList.take i ++ [op] := by
  rw [List.take_add_one, Array.getElem?_toList, here]
  rfl

private theorem place_succ_of_nop (here : (code.push .halt)[i]? = some .nop) :
    place code (i + 1) = place code i := by
  rw [place, take_succ_program here]
  simp [place, Opcode.stripped]

private theorem place_succ (here : (code.push .halt)[i]? = some op) (works : op ≠ .nop) :
    place code (i + 1) = place code i + 1 := by
  rw [place, take_succ_program here]
  simp [place, Opcode.stripped, works]

private theorem place_mono {j : Nat} (le : i ≤ j) : place code i ≤ place code j := by
  have front := List.take_sublist_take_left (l := (code.push .halt).toList) le
  exact (front.filter _).length_le

private theorem place_size : place code code.size = (bare code).size := by
  simp [place, bare]

private theorem place_of_size_lt (past : code.size < i) : place code i = (bare code).size + 1 := by
  have all : (code.push .halt).toList.take i = (code.push .halt).toList :=
    List.take_of_length_le (by simpa using Nat.succ_le_of_lt past)
  rw [place, all, ← toList_push_bare, Array.length_toList, Array.size_push]

private theorem getElem?_place (here : (code.push .halt)[i]? = some op) (works : op ≠ .nop) :
    ((bare code).push .halt)[place code i]? = some op := by
  have split : (code.push .halt).toList =
      (code.push .halt).toList.take i ++ op :: (code.push .halt).toList.drop (i + 1) := by
    conv_lhs => rw [← List.take_append_drop (i + 1) (code.push .halt).toList,
      take_succ_program here, List.append_assoc, List.singleton_append]
  rw [← Array.getElem?_toList, toList_push_bare, split, Opcode.stripped, List.filter_append,
    List.filter_cons_of_pos (by simpa using works), place, Opcode.stripped,
    List.getElem?_append_right le_rfl, Nat.sub_self]
  rfl

private theorem closing?_place :
    closing? (bare code) (place code i) d = (closing? code i d).map (place code) := by
  -- The search is followed in the longer code; past what does nothing, the place stays.
  induction left : code.size - i generalizing i d with
  | zero =>
    have outside : (bare code).size ≤ place code i := by
      rw [← place_size]
      exact place_mono (by omega)
    rw [closing?_outside outside, closing?_outside (by omega)]
    rfl
  | succ left ih =>
    have inside : i < code.size := by omega
    have later (d : Nat) : closing? (bare code) (place code (i + 1)) d =
        (closing? code (i + 1) d).map (place code) := ih (by omega)
    obtain ⟨op, here⟩ : ∃ op, code[i]? = some op := ⟨_, Array.getElem?_eq_getElem inside⟩
    have among := getElem?_push_of here
    by_cases works : op = .nop
    · subst works
      rw [closing?_other inside (by simp [here]) (by simp [here]), ← place_succ_of_nop among]
      exact later d
    · have placed := place_succ among works
      have inside' : place code i < (bare code).size := by
        have le : place code (i + 1) ≤ place code code.size := place_mono inside
        rw [place_size] at le
        omega
      have here' : (bare code)[place code i]? = some op := by
        rw [← getElem?_place among works, Array.getElem?_push_lt inside',
          Array.getElem?_eq_getElem inside']
      by_cases start : op = .loopStart
      · subst start
        rw [closing?_start here, closing?_start here', ← placed]
        exact later (d + 1)
      · by_cases stop : op = .loopEnd
        · subst stop
          cases d with
          | zero =>
            rw [closing?_end_zero here, closing?_end_zero here']
            rfl
          | succ d =>
            rw [closing?_end_succ here, closing?_end_succ here', ← placed]
            exact later d
        · rw [closing?_other inside (by simpa [here] using start) (by simpa [here] using stop),
            closing?_other inside' (by simpa [here'] using start) (by simpa [here'] using stop),
            ← placed]
          exact later d

end Brackets

namespace Machine

/-- The machine whose code has been stripped, with a count of steps of its own. -/
def bare (steps : Nat) (m : Machine) : Machine :=
  { m with
    code := Brackets.bare m.code
    pc := Brackets.place m.code m.pc
    loops := m.loops.map (Brackets.place m.code)
    steps := steps }

/-- How many of the first `n` instructions executed do something. -/
def worked (n : Nat) (m : Machine) : Nat := (Opcode.stripped (executed n m)).length

variable {m m' : Machine} {s n : Nat} {op : Opcode}

private theorem getElem?_program (here : m.current? = some op) :
    (m.code.push .halt)[m.pc]? = some op := by
  rw [← here, current?_eq, program]

private theorem current?_bare (here : m.current? = some op) (works : op ≠ .nop) :
    (m.bare s).current? = some op := by
  rw [current?_eq]
  exact Brackets.getElem?_place (getElem?_program here) works

private theorem current?_bare_eq_none_iff : (m.bare s).current? = none ↔ m.current? = none := by
  rw [current?_eq_none_iff, current?_eq_none_iff, length, length]
  constructor
  · intro past
    by_contra left
    have le : Brackets.place m.code m.pc ≤ Brackets.place m.code m.code.size :=
      Brackets.place_mono (by omega)
    rw [Brackets.place_size] at le
    exact absurd past (Nat.not_le.mpr (Nat.lt_succ_of_le le))
  · intro past
    exact (Brackets.place_of_size_lt past).ge

private theorem bare_next_of_nop (here : m.current? = some .nop) : m.next.bare s = m.bare s := by
  have same := Brackets.place_succ_of_nop (getElem?_program here)
  simp [next_eq_perform here, perform, passed, execute, bare, same]

private theorem move_bare (move : Move m m') (works : m.current? ≠ some .nop) :
    Move (m.bare s) (m'.bare (s + 1)) := by
  have placed {op : Opcode} (here : m.current? = some op) :
      Brackets.place m.code (m.pc + 1) = Brackets.place m.code m.pc + 1 :=
    Brackets.place_succ (getElem?_program here) (fun same => works (same ▸ here))
  have search (start : m.current? = some .loopStart) :
      Brackets.closing? (m.bare s).code ((m.bare s).pc + 1) 0 =
        (Brackets.closing? m.code (m.pc + 1) 0).map (Brackets.place m.code) := by
    rw [← Brackets.closing?_place, placed start]
    rfl
  cases move with
  | plain p tape input output here effect =>
    have here' : (m.bare s).current? = some p.opcode :=
      current?_bare here (fun same => works (same ▸ here))
    have moved := Move.plain p tape input output here' effect
    simpa only [bare, placed here] using moved
  | enter here nonzero =>
    have moved := Move.enter (current?_bare (s := s) here (by decide)) nonzero
    simpa only [bare, List.map_cons, placed here] using moved
  | skip stop here zero found =>
    rw [found] at search
    have start := getElem?_of_current? here (by decide)
    have paired := (Brackets.mem_loops_iff_closing? start).mpr found
    have ends := Brackets.getElem?_push_of (Brackets.mem_loops_iff.mp paired).1
    have moved := Move.skip _ (current?_bare (s := s) here (by decide)) zero (search here)
    simpa only [bare, Brackets.place_succ ends (by decide)] using moved
  | abandon here zero missing =>
    rw [missing] at search
    have moved := Move.abandon (current?_bare (s := s) here (by decide)) zero (search here)
    simpa only [bare, Brackets.place_size] using moved
  | ignore here entered =>
    have none_entered : (m.bare s).loops = [] := List.map_eq_nil_iff.mpr entered
    have moved := Move.ignore (current?_bare (s := s) here (by decide)) none_entered
    simpa only [bare, placed here] using moved
  | again body outer here entered nonzero =>
    have entered' : (m.bare s).loops = Brackets.place m.code body :: outer.map _ :=
      (congrArg _ entered).trans List.map_cons
    exact Move.again _ _ (current?_bare here (by decide)) entered' nonzero
  | leave body outer here entered zero =>
    have entered' : (m.bare s).loops = Brackets.place m.code body :: outer.map _ :=
      (congrArg _ entered).trans List.map_cons
    have moved := Move.leave _ _ (current?_bare (s := s) here (by decide)) entered' zero
    simpa only [bare, placed here] using moved
  | halt here =>
    have moved := Move.halt (current?_bare (s := s) here (by decide))
    have last : Brackets.place m.code m.length = (m.bare s).length :=
      Brackets.place_of_size_lt (Nat.lt_succ_self _)
    rw [← last] at moved
    exact moved

private theorem bare_after (n : Nat) (m : Machine) (s : Nat) :
    (m.after n).bare (s + m.worked n) = (m.bare s).after (m.worked n) := by
  induction n generalizing m s with
  | zero => rfl
  | succ n ih =>
    cases here : m.current? with
    | none =>
      have idle : worked (n + 1) m = 0 := by
        rw [worked, executed_of_current?_eq_none here]
        rfl
      rw [idle, after_of_current?_eq_none here]
      rfl
    | some op =>
      rw [worked, executed_succ here, after]
      by_cases works : op = .nop
      · subst works
        have idle : Opcode.stripped (.nop :: executed n m.next) =
            Opcode.stripped (executed n m.next) := List.filter_cons_of_neg (by decide)
        rw [idle, ← bare_next_of_nop here]
        exact ih m.next s
      · have busy : Opcode.stripped (op :: executed n m.next) =
            op :: Opcode.stripped (executed n m.next) :=
          List.filter_cons_of_pos (by simpa using works)
        have move : Move m m.next := move_next (by rw [here]; exact Option.some_ne_none op)
        have moved := move_bare (s := s) move (by simpa [here] using works)
        rw [busy, List.length_cons, after, moved.next_eq, ← Nat.succ_add_eq_add_succ]
        exact ih m.next (s + 1)

private theorem exists_after_ne_nop (m : Machine) : ∃ n, (m.after n).current? ≠ some .nop := by
  induction left : m.length - m.pc generalizing m with
  | zero =>
    have stopped : m.current? = none := current?_eq_none_iff.mpr (by omega)
    exact ⟨0, by simp [after, stopped]⟩
  | succ left ih =>
    by_cases here : m.current? = some .nop
    · have next : m.next = { m with pc := m.pc + 1, steps := m.steps + 1 } :=
        next_eq_perform here
      obtain ⟨n, other⟩ := ih m.next (by rw [next]; simp only [length] at left ⊢; omega)
      exact ⟨n + 1, other⟩
    · exact ⟨0, here⟩

private theorem exists_le_worked (going : ∀ n, (m.after n).current? ≠ none) (k : Nat) :
    ∃ n, k ≤ m.worked n := by
  induction k with
  | zero => exact ⟨0, Nat.zero_le _⟩
  | succ k ih =>
    obtain ⟨n, le⟩ := ih
    obtain ⟨j, other⟩ := exists_after_ne_nop (m.after n)
    rw [← after_add] at other
    obtain ⟨op, here⟩ := Option.ne_none_iff_exists'.mp (going (n + j))
    have works : op ≠ .nop := fun same => other (same ▸ here)
    refine ⟨n + j + 1, ?_⟩
    rw [worked, executed_add, executed_add, executed_succ here, executed]
    simp only [worked, Opcode.stripped, List.filter_append, List.length_append] at le ⊢
    rw [List.filter_cons_of_pos (by simpa using works), List.length_cons]
    omega

section Run

variable {ops : List Opcode}

private theorem reset_load (m : Machine) : (m.load ops).reset = m.load ops := by
  simp [load, reset, Tape.reset, Tape.blank]

private theorem bare_load (m : Machine) : (m.load ops).bare 0 = m.load (Opcode.stripped ops) := rfl

private theorem steps_eq_worked_add (n : Nat) (m : Machine) :
    ((m.load ops).after n).steps = (m.load ops).worked n +
      (executed ((m.load ops).after n).steps (m.load ops)).count .nop := by
  have steps : ((m.load ops).after n).steps = (executed n (m.load ops)).length := by
    rw [steps_after]
    exact Nat.zero_add _
  rw [steps, executed_length, worked, Opcode.stripped, ← List.countP_eq_length_filter,
    List.count, List.length_eq_countP_add_countP (· ≠ .nop)]
  congr 1
  exact List.countP_congr fun op _ => by simp

private theorem run_bare {outcome : Outcome} {last : Machine}
    (ran : (m.load ops).run none = some (outcome, last)) :
    ∃ n, last = (m.load ops).after n ∧ (m.load (Opcode.stripped ops)).run none =
      some (outcome, last.bare ((m.load ops).worked n)) := by
  obtain ⟨rfl, stopped, n, rfl⟩ := run_none_eq_some_iff.mp ran
  rw [reset_load] at stopped ⊢
  refine ⟨n, rfl, run_none_eq_some_iff.mpr ⟨rfl, current?_bare_eq_none_iff.mpr stopped,
    (m.load ops).worked n, ?_⟩⟩
  rw [reset_load, ← bare_load, ← bare_after, Nat.zero_add]

private theorem exists_run_of_stripped {result : Outcome × Machine}
    (ran : (m.load (Opcode.stripped ops)).run none = some result) :
    ∃ result, (m.load ops).run none = some result := by
  obtain ⟨-, stopped, k, same⟩ := run_none_eq_some_iff.mp ran
  rw [reset_load, ← bare_load] at same
  by_contra endless
  rw [not_exists, ← Option.eq_none_iff_forall_ne_some, run_none_eq_none_iff, reset_load] at endless
  obtain ⟨n, le⟩ := exists_le_worked endless k
  obtain ⟨d, total⟩ := Nat.exists_eq_add_of_le le
  have met := bare_after n (m.load ops) 0
  rw [total, after_add, ← same, after_of_current?_eq_none stopped] at met
  exact endless n (current?_bare_eq_none_iff.mp (met ▸ stopped))

/-- How a run ended, with the output and the tape that it leaves behind. -/
def leftBehind (result : Outcome × Machine) : Outcome × Array UInt8 × Tape :=
  (result.1, result.2.output, result.2.tape)

private theorem run_none_stripped (m : Machine) (ops : List Opcode) :
    ((m.load (Opcode.stripped ops)).run none).map leftBehind =
      ((m.load ops).run none).map leftBehind := by
  cases ran : (m.load ops).run none with
  | some result =>
    obtain ⟨outcome, last⟩ := result
    obtain ⟨n, -, ran'⟩ := run_bare ran
    rw [ran']
    rfl
  | none =>
    cases ran' : (m.load (Opcode.stripped ops)).run none with
    | none => rfl
    | some result =>
      obtain ⟨found, ended⟩ := exists_run_of_stripped ran'
      rw [ran] at ended
      contradiction

/-- Programs that differ in what does nothing only leave the same behind, or both never end. -/
theorem run_none_of_stripped_eq {ops' : List Opcode}
    (same : Opcode.stripped ops = Opcode.stripped ops') :
    ((m.load ops).run none).map leftBehind = ((m.load ops').run none).map leftBehind := by
  rw [← run_none_stripped, same, run_none_stripped]

/--
A program ends exactly when it does so without the instructions that do nothing, or, as a source
text, without its comments. Both leave the same output, tape and unread input behind and are as deep
in loops as each other; their steps differ by the instructions executed that do nothing.
-/
theorem run_stripped (m : Machine) (ops : List Opcode) :
    (∀ source, Opcode.stripped (Opcode.ofSource source) =
      Opcode.ofSource (source.filter (· ∈ Opcode.symbols))) ∧
    ((∃ result, (m.load ops).run none = some result) ↔
      ∃ result, (m.load (Opcode.stripped ops)).run none = some result) ∧
    ∀ outcome last, (m.load ops).run none = some (outcome, last) →
      ∃ last', (m.load (Opcode.stripped ops)).run none = some (outcome, last') ∧
        last'.output = last.output ∧ last'.tape = last.tape ∧ last'.input = last.input ∧
        last'.unmatched = last.unmatched ∧ last'.loops.length = last.loops.length ∧
        last.steps = last'.steps + (executed last.steps (m.load ops)).count .nop := by
  refine ⟨Opcode.stripped_ofSource, ⟨?_, ?_⟩, ?_⟩
  · rintro ⟨⟨outcome, last⟩, ran⟩
    obtain ⟨n, -, ran'⟩ := run_bare ran
    exact ⟨_, ran'⟩
  · rintro ⟨result, ran⟩
    exact exists_run_of_stripped ran
  · intro outcome last ran
    obtain ⟨n, rfl, ran'⟩ := run_bare ran
    exact ⟨_, ran', rfl, rfl, rfl, rfl, List.length_map _, steps_eq_worked_add n m⟩

end Run

end Machine

end TapeMachine
