import TapeMachine.Proofs.Machine.Executions

set_option autoImplicit false

namespace TapeMachine

namespace Execution

/-- The byte that a read stores when one is waiting. -/
def delivery (e : Execution) : List UInt8 :=
  if e.op = .read ∧ e.before.input ≠ [] then [e.after.tape.read] else []

private theorem delivery_append_input (e : Execution) :
    e.delivery ++ e.after.input = e.before.input := by
  by_cases reads : e.op = .read
  · obtain ⟨op, m⟩ := e
    obtain rfl : op = .read := reads
    obtain ⟨code, pc, loops, tape, input, output, steps, halted, unmatched⟩ := m
    cases input with
    | nil => rfl
    | cons b rest =>
      have stored : (tape.write b).read = b := Tape.read_write b tape
      simp [delivery, after, Machine.execute, Machine.mapTape, stored]
  · have unread := (Machine.effect_execute e.op e.before).input_eq reads
    rw [delivery, if_neg (fun both => reads both.1)]
    exact unread

private theorem starved_read {e : Execution} (reads : e.op = .read)
    (starved : e.before.input = []) :
    e.after.tape.read = 0 ∧ e.after.input = [] := by
  obtain ⟨op, m⟩ := e
  obtain rfl : op = .read := reads
  obtain ⟨code, pc, loops, tape, input, output, steps, halted, unmatched⟩ := m
  obtain rfl : input = [] := starved
  exact ⟨Tape.read_write 0 tape, rfl⟩

end Execution

namespace Machine

/-- The instructions that operations execute, one after the other. -/
def executedBy : List Operation → Machine → List Execution
  | [], _ => []
  | operation :: rest, m => operation.executions m ++ executedBy rest (operation.apply m).2

variable {m : Machine}

private theorem delivery_executions_append (n : Nat) (m : Machine) :
    (m.executions n).flatMap Execution.delivery ++ (m.after n).input = m.input := by
  induction n generalizing m with
  | zero => rfl
  | succ n ih =>
    rw [executions, after]
    cases here : m.current? with
    | none =>
      rw [next_of_current?_eq_none here, after_of_current?_eq_none here]
      rfl
    | some op =>
      have first := Execution.delivery_append_input ⟨op, m.passed⟩
      have taken : m.next.input = (Execution.after ⟨op, m.passed⟩).input := by
        rw [next_eq_perform here]
        rfl
      rw [List.flatMap_cons, List.append_assoc, ih m.next, taken]
      exact first

private theorem delivery_run_append {budget : Option Nat} {outcome : Outcome} {last : Machine}
    (ran : m.run budget = some (outcome, last)) :
    (m.reset.executions (m.horizon budget)).flatMap Execution.delivery ++ last.input =
      m.input := by
  rw [eq_after_horizon_of_run ran, delivery_executions_append]
  rfl

private theorem delivery_apply_append (operation : Operation)
    (unfed : ∀ v, operation = .loadInput v → ∃ fault, v.toInputBytes = .error fault)
    (m : Machine) :
    (operation.executions m).flatMap Execution.delivery ++ (operation.apply m).2.input =
      m.input := by
  cases operation with
  | loadTokens tokens =>
    refine accept_induction (P := fun a => [] ++ a.input = m.input) rfl fun next loaded => ?_
    obtain ⟨ops, -, rfl⟩ := bind_pure_eq_ok_iff.mp loaded
    rfl
  | loadCodes codes =>
    refine accept_induction (P := fun a => [] ++ a.input = m.input) rfl fun next loaded => ?_
    obtain ⟨ops, -, rfl⟩ := bind_pure_eq_ok_iff.mp loaded
    rfl
  | loadInput text =>
    obtain ⟨fault, refused⟩ := unfed text rfl
    rw [Operation.apply, loadInput, refused]
    rfl
  | reset => rfl
  | fetch =>
    rw [Operation.apply]
    cases m.current? <;> rfl
  | execute code =>
    rw [Operation.apply, Operation.executions, executeCode]
    cases Opcode.ofCode? code with
    | none => rfl
    | some op =>
      have delivered := Execution.delivery_append_input ⟨op, m⟩
      rw [List.flatMap_singleton]
      exact delivered
  | step =>
    rw [apply_step_eq]
    exact delivery_executions_append 1 m
  | run limit =>
    obtain ⟨fault, unknown, applied⟩ | ⟨allowed, outcome, last, known, ran, applied⟩ |
      ⟨allowed, known, ran, applied⟩ := apply_run_cases limit m
    · rw [applied, Operation.executions, unknown]
      rfl
    · rw [applied, Operation.executions, known]
      simp only [ran]
      exact delivery_run_append ran
    · rw [applied, Operation.executions, known]
      simp only [ran]
      rfl
  | store v =>
    refine accept_induction (P := fun a => [] ++ a.input = m.input) rfl fun next stored => ?_
    obtain ⟨n, -, rfl⟩ := bind_pure_eq_ok_iff.mp stored
    rfl
  | moveLeft => rfl
  | moveRight => rfl
  | resetTape => rfl

theorem delivery_executedBy_append {later : List Operation}
    (unfed : ∀ v, .loadInput v ∈ later → ∃ fault, v.toInputBytes = .error fault) (m : Machine) :
    (m.executedBy later).flatMap Execution.delivery ++ (m.operate later).input = m.input := by
  induction later generalizing m with
  | nil => rfl
  | cons operation rest ih =>
    have first := delivery_apply_append operation
      (fun v same => unfed v (same ▸ List.mem_cons_self)) m
    have others := ih (fun v within => unfed v (List.mem_cons_of_mem _ within))
      (operation.apply m).2
    rw [executedBy, operate, List.flatMap_append, List.append_assoc, others, first]

/--
An input text is loaded, and then other things are done to the machine, in any order, none of them
another load of an input that is not refused. The bytes that reads have stored from what was waiting
and the bytes that still wait are the low bytes of the characters of the text, each of them once and
in order; where nothing was waiting, a read has stored a zero. Neither a reset nor a run that comes
next restores or drops anything, at no moment of a run that never ends either.
-/
theorem input_delivered_once_in_order (m : Machine) (text : String) (later : List Operation)
    (unfed : ∀ v, .loadInput v ∈ later → ∃ fault, v.toInputBytes = .error fault) :
    let loaded := ((Operation.loadInput (.str text)).apply m).2
    let last := loaded.operate later
    ((loaded.executedBy later).flatMap Execution.delivery ++ last.input).map UInt8.toNat =
      text.toList.map (fun c => c.toNat % 256) ∧
    (∀ e ∈ loaded.executedBy later, e.op = .read → e.before.input = [] →
      e.after.tape.read = 0 ∧ e.after.input = []) ∧
    last.reset.input = last.input ∧
    (∀ budget outcome stopped, last.run budget = some (outcome, stopped) →
      (last.reset.executions (last.horizon budget)).flatMap Execution.delivery ++ stopped.input =
        last.input) ∧
    (∀ n, (last.reset.executions n).flatMap Execution.delivery ++ (last.reset.after n).input =
      last.input) := by
  intro loaded last
  have fed : loaded.input = inputBytes text := by
    simp only [loaded, apply_loadInput (Value.toInputBytes_str text)]
    rfl
  refine ⟨?_, ?_, rfl, ?_, ?_⟩
  · rw [delivery_executedBy_append unfed, fed, inputBytes, List.map_map]
    apply List.map_congr_left
    intro c _
    exact UInt8.toNat_ofNat'
  · intro e _ reads starved
    exact Execution.starved_read reads starved
  · intro budget outcome stopped ran
    exact delivery_run_append ran
  · intro n
    exact delivery_executions_append n last.reset

/--
Three characters, one of which is no byte, are read by a step, by a direct execution and by a
limited run of another program, with a reset and a load that fails in between; one read comes too
late.
-/
theorem input_delivered_once_in_order_between_loads :
    let later : List Operation :=
      [.loadTokens (.str ","), .step, .execute 5, .reset, .loadInput (.int 7), .moveRight,
        .loadCodes (.list [.int 5, .int 0, .int 5, .int 6]), .run (.int 3)]
    let loaded := ((Operation.loadInput (.str "aāb")).apply (new (Tape.blank 2 Nat.two_pos))).2
    let last := loaded.operate later
    (∀ v, .loadInput v ∈ later → ∃ fault, v.toInputBytes = .error fault) ∧
    (loaded.executedBy later).map Execution.op = [.read, .read, .read, .nop, .read] ∧
    ((loaded.executedBy later).flatMap Execution.delivery ++ last.input).map UInt8.toNat =
      "aāb".toList.map (fun c => c.toNat % 256) ∧
    last.input = [] := by
  intro later loaded last
  have unfed : ∀ v, .loadInput v ∈ later → ∃ fault, v.toInputBytes = .error fault := by
    intro v within
    obtain rfl : v = .int 7 := by simpa [later] using within
    exact ⟨_, rfl⟩
  obtain ⟨delivered, -⟩ := input_delivered_once_in_order _ "aāb" later unfed
  exact ⟨unfed, by decide +kernel, delivered, by decide +kernel⟩

end Machine

end TapeMachine
