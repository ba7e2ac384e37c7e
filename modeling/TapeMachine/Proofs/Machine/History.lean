import TapeMachine.Proofs.Machine.Effect
import TapeMachine.Proofs.Machine.Reachable

set_option autoImplicit false

namespace TapeMachine

/-- What an operation leaves to be seen: its reply, what it reports, and the machine after it. -/
structure Moment where
  reply : Reply
  events : List Event
  machine : Machine

theorem Value.toInputBytes_str (text : String) :
    (Value.str text).toInputBytes = .ok (inputBytes text) := by
  have bytes (cs : List Char) : (cs.map fun c => Value.str c.toString).mapM toInputByte =
      .ok (cs.map fun c => UInt8.ofNat c.toNat) := by
    induction cs with
    | nil => rfl
    | cons c cs ih =>
      have first : (Value.str c.toString).toInputByte = .ok (UInt8.ofNat c.toNat) := by
        have single : c.toString.toList = [c] := String.toList_singleton c
        rw [toInputByte, single]
      rw [List.map_cons, List.mapM_cons, first, ih]
      rfl
  exact bytes text.toList

namespace Machine

/-- The machine that operations lead to, one after the other. -/
def operate : List Operation → Machine → Machine
  | [], m => m
  | operation :: rest, m => operate rest (operation.apply m).2

def replies : List Operation → Machine → List Reply
  | [], _ => []
  | operation :: rest, m => (operation.apply m).1 :: replies rest (operation.apply m).2

/-- All that can be seen of operations, one after the other. -/
def course (lenient : Bool) : List Operation → Machine → List Moment
  | [], _ => []
  | operation :: rest, m =>
    let result := operation.apply m
    ⟨result.1, operation.events lenient m result, result.2⟩ :: course lenient rest result.2

/-- What an operation of any kind can make of a machine. -/
inductive Turn (m : Machine) : Machine → Prop
  | change {m' : Machine} (change : Change m m') : Turn m m'
  | pass (left : m.current? ≠ none) : Turn m m.passed
  | execute {op : Opcode} {m' : Machine} (effect : Effect m op m') : Turn m m'

variable {m m' : Machine}

private theorem turn_apply (operation : Operation) (m : Machine) :
    Turn m (operation.apply m).2 := by
  cases operation with
  | fetch =>
    rw [Operation.apply]
    cases here : m.current? with
    | none => exact .change .none
    | some op => exact .pass (by rw [here]; exact Option.some_ne_none op)
  | execute code =>
    rw [Operation.apply, executeCode]
    cases Opcode.ofCode? code with
    | none => exact .change .none
    | some op => exact .execute (effect_execute op m)
  | _ => exact .change (change_apply trivial)

theorem operate_induction {P : Machine → Prop} (keep : ∀ {a b}, Turn a b → P a → P b) (start : P m)
    (history : List Operation) : P (m.operate history) := by
  induction history generalizing m with
  | nil => exact start
  | cons operation rest ih => exact ih (keep (turn_apply operation m) start)

section Capacity

private theorem Turn.capacity_eq (turn : Turn m m') : m'.tape.capacity = m.tape.capacity := by
  cases turn with
  | change change =>
    cases change with
    | none => rfl
    | restart code input => exact Tape.capacity_reset m.tape
    | step => exact capacity_after 1 m
    | run n =>
      rw [capacity_after]
      exact Tape.capacity_reset m.tape
    | tape tape same => exact same
  | pass left => rfl
  | execute effect => exact effect.capacity_eq

theorem capacity_operate (history : List Operation) (m : Machine) :
    (m.operate history).tape.capacity = m.tape.capacity :=
  operate_induction (P := fun a => a.tape.capacity = m.tape.capacity)
    (fun turn same => turn.capacity_eq.trans same) rfl history

end Capacity

theorem apply_run_cases (limit : Value) (m : Machine) :
    (∃ fault, StepLimit.ofValue limit = .error fault ∧
      (Operation.run limit).apply m = (.refused fault, m.reset)) ∨
    (∃ allowed outcome last, StepLimit.ofValue limit = .ok allowed ∧
      m.run allowed.budget = some (outcome, last) ∧
      (Operation.run limit).apply m = (.ended outcome, last)) ∨
    (∃ allowed, StepLimit.ofValue limit = .ok allowed ∧ m.run allowed.budget = none ∧
      (Operation.run limit).apply m = (.endless, m)) := by
  rw [Operation.apply, runUnder]
  cases StepLimit.ofValue limit with
  | error fault => exact .inl ⟨fault, rfl, rfl⟩
  | ok allowed =>
    cases ran : m.run allowed.budget with
    | some result => exact .inr (.inl ⟨allowed, result.1, result.2, rfl, ran, by simp only [ran]⟩)
    | none => exact .inr (.inr ⟨allowed, rfl, ran, by simp only [ran]⟩)

section Loads

variable {tokens text : Value} {ops : List Opcode} {bytes : List UInt8}

theorem apply_loadTokens (program : tokens.toOpcodes = .ok ops) (m : Machine) :
    (Operation.loadTokens tokens).apply m = (.done, m.load ops) := by
  rw [Operation.apply, Machine.loadTokens, program]
  rfl

theorem apply_loadCodes (program : tokens.codesToOpcodes = .ok ops) (m : Machine) :
    (Operation.loadCodes tokens).apply m = (.done, m.load ops) := by
  rw [Operation.apply, Machine.loadCodes, program]
  rfl

theorem apply_loadInput (input : text.toInputBytes = .ok bytes) (m : Machine) :
    (Operation.loadInput text).apply m = (.done, m.feed bytes) := by
  rw [Operation.apply, Machine.loadInput, input]
  rfl

private theorem reset_congr {a b : Machine} (code : a.code = b.code) (input : a.input = b.input)
    (capacity : a.tape.capacity = b.tape.capacity) : a.reset = b.reset := by
  have tape : a.tape.reset = b.tape.reset := by
    have size : a.tape.cells.size = b.tape.cells.size := capacity
    simp only [Tape.reset, size]
  rw [reset, reset, code, input, tape]

private theorem operate_loads_congr {a b : Machine} (program : tokens.toOpcodes = .ok ops)
    (input : text.toInputBytes = .ok bytes) (capacity : a.tape.capacity = b.tape.capacity) :
    a.operate [.loadTokens tokens, .loadInput text] =
        b.operate [.loadTokens tokens, .loadInput text] ∧
      a.operate [.loadInput text, .loadTokens tokens] =
        b.operate [.loadInput text, .loadTokens tokens] := by
  have cells : a.tape.reset.capacity = b.tape.reset.capacity := by
    rw [Tape.capacity_reset, Tape.capacity_reset, capacity]
  simp only [operate, apply_loadTokens program, apply_loadInput input]
  constructor
  · exact reset_congr rfl rfl cells
  · exact reset_congr rfl rfl cells

/--
Whatever has been asked of a machine, and whether or not it was refused: once a program and an input
have been loaded, in either order, the machine is the one that the same two loads make of a new
machine with as many cells, and all that can be seen of it from then on is the same.
-/
theorem past_forgotten_by_loads (capacity : Nat) (positive : 0 < capacity)
    (past : List Operation) (program : tokens.toOpcodes = .ok ops)
    (input : text.toInputBytes = .ok bytes) (loads : List Operation)
    (order : loads = [.loadTokens tokens, .loadInput text] ∨
      loads = [.loadInput text, .loadTokens tokens]) :
    let fresh := new (Tape.blank capacity positive)
    let used := fresh.operate past
    used.replies loads = [.done, .done] ∧ fresh.replies loads = [.done, .done] ∧
    used.operate loads = fresh.operate loads ∧
    ∀ lenient later,
      (used.operate loads).course lenient later = (fresh.operate loads).course lenient later := by
  intro fresh used
  have accepted (m : Machine) : m.replies loads = [.done, .done] := by
    rcases order with rfl | rfl <;>
      simp only [replies, apply_loadTokens program, apply_loadInput input]
  have same : used.operate loads = fresh.operate loads := by
    have loaded := operate_loads_congr program input (capacity_operate past fresh)
    rcases order with rfl | rfl
    · exact loaded.1
    · exact loaded.2
  refine ⟨accepted used, accepted fresh, same, ?_⟩
  intro lenient later
  rw [same]

theorem past_forgotten_by_loads_stopped :
    let past : List Operation :=
      [.loadCodes (.list [.int 8, .int 1, .int 4, .int 1, .int 6, .int 7, .int 255]),
        .loadInput (.str "z"), .run (.int 9), .store (.str "x"), .loadTokens (.list [.list []])]
    let loads : List Operation := [.loadInput (.str "a"), .loadTokens (.str ",.")]
    let fresh := new (Tape.blank 2 Nat.two_pos)
    let used := fresh.operate past
    (used.halted, used.loops, used.unmatched, used.output, used.input, used.tape.pointer) =
      (true, [6], 1, #[1], [122], 1) ∧
    used.operate loads = fresh.operate loads ∧
    (used.operate loads).course false [.run .null] =
      (fresh.operate loads).course false [.run .null] := by
  intro past loads fresh used
  have program : (Value.str ",.").toOpcodes = .ok [.read, .write] := rfl
  have input : (Value.str "a").toInputBytes = .ok [97] := rfl
  obtain ⟨-, -, same, later⟩ :=
    past_forgotten_by_loads 2 Nat.two_pos past program input loads (.inr rfl)
  exact ⟨by decide +kernel, same, later false [.run .null]⟩

end Loads

end Machine

end TapeMachine
