import TapeMachine.Proofs.Machine.Checked.Execution
import TapeMachine.Proofs.Machine.History

/-!
Operations whose arguments have the right types. Main statement: a machine on plain integers that
checks every access does all of them without a breach and in step with the machine itself, and
whatever it keeps stays in bounds.
-/

set_option autoImplicit false

namespace TapeMachine

/-- Whether the arguments of an operation are of the types that it asks for. -/
def Operation.Typed : Operation → Prop
  | loadTokens tokens =>
    ∃ items, tokens.elements = .ok items ∧ ∀ v ∈ items, ∃ text, v = .str text
  | loadCodes codes => ∃ items, codes.elements = .ok items ∧ ∀ v ∈ items, v.integral? ≠ none
  | loadInput text => ∃ s, text = .str s
  | run limit => limit.integral? ≠ none
  | store v => v.integral? ≠ none
  | _ => True

/-- Whether an operation has come to its end without being refused. -/
def Reply.Answers : Reply → Prop
  | done => True
  | refused _ => False
  | instruction _ => True
  | ended _ => True
  | endless => False

namespace Machine

variable {m m' : Machine}

section Operations

variable {operation : Operation}

private theorem exists_toOpcodes {tokens : Value} (typed : (Operation.loadTokens tokens).Typed) :
    ∃ ops, tokens.toOpcodes = .ok ops := by
  obtain ⟨items, listed, texts⟩ := typed
  rw [Value.toOpcodes, listed]
  refine exists_mapM fun v present => ?_
  obtain ⟨text, rfl⟩ := texts v present
  have hashable : (Value.str text).unhashableType? = none := rfl
  rw [Value.toOpcode, hashable]
  simp only
  split <;> exact ⟨_, rfl⟩

private theorem toInt_of_integral? {v : Value} {n : Int} (known : v.integral? = some n) :
    v.toInt = .ok n := by
  cases v <;> cases known <;> rfl

private theorem ofValue_of_integral? {v : Value} {n : Int} (known : v.integral? = some n) :
    StepLimit.ofValue v = .ok (.ofInt n) := by
  cases v <;> cases known <;> rfl

private theorem exists_codesToOpcodes {codes : Value} (typed : (Operation.loadCodes codes).Typed) :
    ∃ ops, codes.codesToOpcodes = .ok ops := by
  obtain ⟨items, listed, integers⟩ := typed
  rw [Value.codesToOpcodes, listed]
  refine exists_mapM fun v present => ?_
  obtain ⟨n, known⟩ := Option.ne_none_iff_exists'.mp (integers v present)
  rw [toInt_of_integral? known]
  exact ⟨_, rfl⟩

private theorem load_checked (ops : List Opcode) (m : Machine) :
    m.checked.load ops = (m.load ops).checked := by
  have program : ops ++ [.halt] = ({ m with code := ops.toArray } : Machine).checked.program := by
    simp [checked, Machine.program]
  rw [Checked.load, program]
  exact reset_checked { m with code := ops.toArray }

private theorem feed_checked (text : String) (m : Machine) :
    m.checked.feed text.toList = (m.feed (inputBytes text)).checked := by
  have bytes : (text.toList.map fun c => (c.toNat : Int) % 256) =
      ({ m with input := inputBytes text } : Machine).checked.input := by
    simp [checked, inputBytes]
  rw [Checked.feed, bytes]
  exact reset_checked { m with input := inputBytes text }

/-- Done on plain integers, an operation looks at nothing that is not there, and does the same. -/
theorem apply_checked (typed : operation.Typed) (m : Machine) :
    m.checked.apply operation = .ok ((operation.apply m).1, (operation.apply m).2.checked) := by
  cases operation with
  | loadTokens tokens =>
    obtain ⟨ops, program⟩ := exists_toOpcodes typed
    rw [apply_loadTokens program, Checked.apply, program, ← load_checked]
    rfl
  | loadCodes codes =>
    obtain ⟨ops, program⟩ := exists_codesToOpcodes typed
    rw [apply_loadCodes program, Checked.apply, program, ← load_checked]
    rfl
  | loadInput text =>
    obtain ⟨s, rfl⟩ := typed
    rw [apply_loadInput (Value.toInputBytes_str s), ← feed_checked]
    rfl
  | reset =>
    rw [Checked.apply, reset_checked]
    rfl
  | fetch =>
    rw [Operation.apply_fetch, Checked.apply, fetch_checked]
    cases m.fetch <;> rfl
  | execute code =>
    rw [Operation.apply, executeCode, Checked.apply]
    cases Opcode.ofCode? code with
    | none => rfl
    | some op =>
      simp only [execute_checked]
      rfl
  | step =>
    rw [Operation.apply_step, Checked.apply, step_checked]
    cases m.step <;> rfl
  | run limit =>
    obtain ⟨n, known⟩ := Option.ne_none_iff_exists'.mp typed
    rw [Checked.apply, Checked.integer, known, Operation.apply, runUnder,
      ofValue_of_integral? known]
    simp only [ok_bind, run_checked]
    rfl
  | store v =>
    obtain ⟨n, known⟩ := Option.ne_none_iff_exists'.mp typed
    rw [Checked.apply, Operation.apply, storeValue, toInt_of_integral? known]
    simp only [Checked.argument, ok_bind, write_checked rfl]
    rfl
  | moveLeft =>
    rw [Checked.apply, moveLeft_checked]
    rfl
  | moveRight =>
    rw [Checked.apply, moveRight_checked]
    rfl
  | resetTape =>
    rw [Checked.apply, resetTape_checked]
    rfl

private theorem answers_apply (typed : operation.Typed) (m : Machine) :
    (operation.apply m).1.Answers := by
  cases operation with
  | loadTokens tokens =>
    obtain ⟨ops, program⟩ := exists_toOpcodes typed
    rw [apply_loadTokens program]
    trivial
  | loadCodes codes =>
    obtain ⟨ops, program⟩ := exists_codesToOpcodes typed
    rw [apply_loadCodes program]
    trivial
  | loadInput text =>
    obtain ⟨s, rfl⟩ := typed
    rw [apply_loadInput (Value.toInputBytes_str s)]
    trivial
  | fetch => rw [Operation.apply]; split <;> trivial
  | step => rw [Operation.apply]; split <;> trivial
  | run limit =>
    obtain ⟨n, known⟩ := Option.ne_none_iff_exists'.mp typed
    rw [Operation.apply, runUnder, ofValue_of_integral? known]
    trivial
  | store v =>
    obtain ⟨n, known⟩ := Option.ne_none_iff_exists'.mp typed
    rw [Operation.apply, storeValue, toInt_of_integral? known]
    trivial
  | _ => trivial

end Operations

private theorem lt_of_closing? {code : Array Opcode} {i d stop : Nat}
    (found : Brackets.closing? code i d = some stop) : stop < code.size := by
  fun_induction Brackets.closing? code i d with
  | case1 i d inside here ih => exact ih found
  | case2 i inside here => exact Option.some.inj found ▸ inside
  | case3 i inside here d ih => exact ih found
  | case4 i d inside start stop ih => exact ih found
  | case5 i d outside => contradiction

/-- Neither the program counter nor a loop that has been entered lies past the program. -/
structure Within (m : Machine) : Prop where
  pc : m.pc ≤ m.length
  loops : ∀ body ∈ m.loops, body ≤ m.length

namespace Within

private theorem new (tape : Tape) :
    (Machine.new tape).Within := ⟨Nat.zero_le _, by simp [Machine.new]⟩

private theorem reset (m : Machine) : m.reset.Within := ⟨Nat.zero_le _, by simp [Machine.reset]⟩

private theorem pass (within : m.Within) (left : m.current? ≠ none) : m.passed.Within := by
  have inside : m.pc < m.length := Nat.lt_of_not_le fun past => left (current?_eq_none_iff.mpr past)
  exact ⟨inside, within.loops⟩

private theorem effect {op : Opcode} (effect : Effect m op m') (within : m.Within) : m'.Within := by
  cases effect with
  | plain p tape input output meaning => exact ⟨within.pc, within.loops⟩
  | enter nonzero => exact ⟨within.pc, List.forall_mem_cons.mpr ⟨within.pc, within.loops⟩⟩
  | skip stop zero found => exact ⟨Nat.succ_le_succ (lt_of_closing? found).le, within.loops⟩
  | abandon zero missing => exact ⟨Nat.le_succ _, within.loops⟩
  | ignore entered => exact ⟨within.pc, within.loops⟩
  | again body outer entered nonzero =>
    exact ⟨within.loops body (entered ▸ List.mem_cons_self), within.loops⟩
  | leave body outer entered zero =>
    exact ⟨within.pc, fun i left => within.loops i (entered ▸ List.mem_cons_of_mem _ left)⟩
  | halt => exact ⟨Nat.le_refl _, within.loops⟩

private theorem after (within : m.Within) (n : Nat) : (m.after n).Within := by
  refine after_induction (fun {a b} move within => ?_) within n
  obtain ⟨op, here⟩ := Option.ne_none_iff_exists'.mp move.running
  rw [← move.next_eq, next_eq_perform here]
  have worked := effect (effect_execute op a.passed) (within.pass move.running)
  exact ⟨worked.pc, worked.loops⟩

theorem turn (turn : Turn m m') (within : m.Within) : m'.Within := by
  cases turn with
  | change change =>
    cases change with
    | none => exact within
    | restart code input => exact reset _
    | step => exact within.after 1
    | run n => exact (reset m).after n
    | tape tape same => exact ⟨within.pc, within.loops⟩
  | pass left => exact within.pass left
  | execute done => exact effect done within

private theorem inBounds (within : m.Within) : m.checked.InBounds where
  program := by simp [checked, program]
  pc := by
    rw [length_program_checked]
    exact ⟨Int.natCast_nonneg _, Int.ofNat_le.mpr within.pc⟩
  loops := by
    intro body entered
    rw [length_program_checked]
    obtain ⟨i, present, rfl⟩ := List.mem_map.mp entered
    exact ⟨Int.natCast_nonneg _, Int.ofNat_le.mpr (within.loops i (List.mem_reverse.mp present))⟩
  cells := by simp [checked, Tape.capacity]
  pointer := ⟨Int.natCast_nonneg _, Int.ofNat_lt.mpr m.tape.pointer_lt⟩
  bytes := by
    intro n kept
    simp only [checked, List.mem_append, List.mem_map] at kept
    have below (b : UInt8) : 0 ≤ (b.toNat : Int) ∧ (b.toNat : Int) < 256 :=
      ⟨Int.natCast_nonneg _, Int.ofNat_lt.mpr b.toNat_lt⟩
    rcases kept with (⟨b, -, rfl⟩ | ⟨b, -, rfl⟩) | ⟨b, -, rfl⟩
    · exact below b
    · exact below b
    · exact below b

end Within

private theorem serve_checked {history : List Operation}
    (typed : ∀ operation ∈ history, operation.Typed)
    (m : Machine) :
    m.checked.serve history = .ok (m.replies history, (m.operate history).checked) ∧
      ∀ reply ∈ m.replies history, reply.Answers := by
  induction history generalizing m with
  | nil => exact ⟨rfl, by simp [replies]⟩
  | cons operation rest ih =>
    obtain ⟨first, others⟩ := List.forall_mem_cons.mp typed
    obtain ⟨served, answers⟩ := ih others (operation.apply m).2
    constructor
    · rw [Checked.serve, apply_checked first]
      simp only [ok_bind, served]
      rfl
    · exact List.forall_mem_cons.mpr ⟨answers_apply first m, answers⟩

/--
Operations in any order on a machine with any number of cells: none of them is refused or looks at
what is not there, whatever indices a machine on plain integers computes, and after them, and so
after each of them, everything is where it belongs.
-/
theorem operations_stay_in_bounds (capacity : Nat) (positive : 0 < capacity)
    (history : List Operation) (typed : ∀ operation ∈ history, operation.Typed) :
    let fresh := new (Tape.blank capacity positive)
    let m := fresh.operate history
    (Checked.new capacity).serve history = .ok (fresh.replies history, m.checked) ∧
    (∀ reply ∈ fresh.replies history, reply.Answers) ∧
    m.checked.InBounds ∧ m.checked.capacity = capacity := by
  intro fresh m
  have blank : fresh.checked = Checked.new capacity := by
    simp [fresh, new, checked, Checked.new, program, Tape.reset, Tape.blank, Tape.capacity]
  obtain ⟨served, answers⟩ := serve_checked typed fresh
  have within : m.Within := operate_induction Within.turn (Within.new _) history
  have size : m.tape.capacity = capacity := by
    rw [capacity_operate history fresh]
    exact (Tape.capacity_reset _).trans (Tape.capacity_blank capacity positive)
  exact ⟨blank ▸ served, answers, within.inBounds, size⟩

/--
A run stops inside a loop, a shorter program comes in its place, and past its end loop brackets are
executed: one enters a loop, one jumps, one searches for an end that is not there.
-/
theorem operations_stay_in_bounds_out_of_step :
    let history : List Operation :=
      [.loadInput (.str "ā"), .loadCodes (.list [.int 1, .int 7, .int 99, .int 255]),
        .run (.int 3), .loadTokens (.str "]"), .store (.int (-1)), .execute 255, .execute 7,
        .execute 8, .moveRight, .execute 7, .fetch, .fetch, .execute 5, .execute 6]
    let fresh := new (Tape.blank 2 Nat.two_pos)
    let m := fresh.operate history
    (m.length, m.pc, m.loops, m.tape.cells, m.input, m.output) = (2, 2, [2], #[255, 1], [], #[1]) ∧
    (Checked.new 2).serve history = .ok (fresh.replies history, m.checked) ∧
    m.checked.InBounds := by
  intro history fresh m
  have typed : ∀ operation ∈ history, operation.Typed := by
    simp [history, Operation.Typed, Value.elements, Value.integral?]
  obtain ⟨served, -, bounds, -⟩ := operations_stay_in_bounds 2 Nat.two_pos history typed
  exact ⟨by decide +kernel, served, bounds⟩

end Machine

end TapeMachine
