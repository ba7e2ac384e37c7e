import TapeMachine.Proofs.Machine.History
import TapeMachine.Proofs.Session
import TapeMachine.Record

set_option autoImplicit false

namespace TapeMachine

private theorem Value.toOpcodes_str (text : String) :
    (Value.str text).toOpcodes = .ok (Opcode.ofSource text.toList) := by
  have opcodes (cs : List Char) : (cs.map fun c => Value.str c.toString).mapM toOpcode =
      .ok (cs.map Opcode.ofChar) := by
    induction cs with
    | nil => rfl
    | cons c cs ih =>
      have first : (Value.str c.toString).toOpcode = .ok (.ofChar c) := by
        have single : c.toString.toList = [c] := String.toList_singleton c
        simp only [toOpcode, unhashableType?, single]
      rw [List.map_cons, List.mapM_cons, first, ih]
      rfl
  exact opcodes text.toList

namespace Record

/-- The number that a list of cells gives for a cell; a cell that it leaves out holds a zero. -/
def cellNumber (cells : Value.Entries) (i : Nat) : Value :=
  ((cells.find? fun entry => entry.1.sameKey (.int i)).map Prod.snd).getD (.int 0)

/-- What a run of a record comes to in the words of a session. -/
def report (result : Outcome × Machine) : Report :=
  ⟨result.2.outputText, result.2.steps, result.1⟩

private theorem configOf_eq (entries : Value.Entries) : configOf entries =
    if ((entries.get? configKey).getD .null).isTruthy then (entries.get? configKey).getD .null
    else .map [] := by
  rw [configOf]
  cases entries.get? configKey <;> rfl

section Run

variable {entries : Value.Entries} {source input : String}

theorem run_eq (d : Directory) (sourced : entries.get? sourceKey = some (.str source))
    (fed : inputOf entries = .str input) :
    run d (.map entries) = Config.load d (configOf entries) >>= fun c =>
      (Session.run c (Opcode.ofSource source.toList) (inputBytes input)).map Prod.snd := by
  have loads (m : Machine) :
      m.loadTokens (.str source) = .ok (m.load (Opcode.ofSource source.toList)) := by
    rw [Machine.loadTokens, Value.toOpcodes_str]
    rfl
  have feeds (m : Machine) : m.loadInput (inputOf entries) = .ok (m.feed (inputBytes input)) := by
    rw [fed, Machine.loadInput, Value.toInputBytes_str]
    rfl
  simp only [run, entriesOf, mapError_ok, ok_bind]
  cases Config.load d (configOf entries) with
  | error failure => rfl
  | ok c =>
    simp only [ok_bind, Session.run, Session.machine]
    cases (Machine.ofCapacity c.memoryCells).mapError Failure.tape with
    | error failure => rfl
    | ok m =>
      simp only [ok_bind, sourced, pure, Except.pure, loads, feeds, mapError_ok]
      cases ((m.load (Opcode.ofSource source.toList)).feed (inputBytes input)).run c.stepLimit with
      | none => rfl
      | some result => rfl

theorem runSource_eq (w : Workspace) (sourced : entries.get? sourceKey = some (.str source))
    (fed : inputOf entries = .str input) :
    ((Session.runSource source input (configOf entries)).run w).1 =
      (run w.directory (.map entries)).map report := by
  rw [Session.runSource, Session.run_configured_fst, run_eq w.directory sourced fed]
  cases Config.load w.directory (configOf entries) with
  | error failure => rfl
  | ok c =>
    rw [ok_bind, ok_bind]
    cases Session.run c (Opcode.ofSource source.toList) (inputBytes input) <;> rfl

end Run

section Cells

private theorem sameKey_int {i j : Nat} :
    (Value.int i).sameKey (.int j) = decide (i = j) := by
  rw [Bool.eq_iff_iff, decide_eq_true_iff]
  simp [Value.sameKey, Value.integral?]

private theorem cellNumber_cons {i j : Nat} {v : Value} {rest : Value.Entries} :
    cellNumber ((.int i, v) :: rest) j = if i = j then v else cellNumber rest j := by
  rw [cellNumber, List.find?_cons, sameKey_int]
  by_cases same : i = j
  · simp [same]
  · simp [same, cellNumber]

private theorem mem_nonZeroCells_iff {cells : List UInt8} {index : Nat} {entry : Value × Value} :
    entry ∈ nonZeroCells index cells ↔ ∃ i cell, cells[i]? = some cell ∧ cell ≠ 0 ∧
      entry = (.int ↑(index + i), .int cell.toNat) := by
  induction cells generalizing index with
  | nil => simp [nonZeroCells]
  | cons first rest ih =>
    have split : (∃ i cell, (first :: rest)[i]? = some cell ∧ cell ≠ 0 ∧
          entry = (.int ↑(index + i), .int cell.toNat)) ↔
        (first ≠ 0 ∧ entry = (.int index, .int first.toNat)) ∨
          ∃ i cell, rest[i]? = some cell ∧ cell ≠ 0 ∧
            entry = (.int ↑(index + 1 + i), .int cell.toNat) := by
      constructor
      · rintro ⟨i, cell, here, nonzero, same⟩
        cases i with
        | zero =>
          obtain rfl := Option.some.inj here
          exact .inl ⟨nonzero, same⟩
        | succ i => exact .inr ⟨i, cell, here, nonzero, by rw [same, Nat.add_right_comm]; rfl⟩
      · rintro (⟨nonzero, same⟩ | ⟨i, cell, here, nonzero, same⟩)
        · exact ⟨0, first, rfl, nonzero, same⟩
        · exact ⟨i + 1, cell, here, nonzero, by rw [same, Nat.add_right_comm]; rfl⟩
    rw [split, nonZeroCells]
    by_cases zero : first = 0
    · simp [zero, ih]
    · simp [zero, ih]

private theorem cellNumber_nonZeroCells {cells : List UInt8} {index i : Nat} {cell : UInt8}
    (here : cells[i]? = some cell) :
    cellNumber (nonZeroCells index cells) (index + i) = .int cell.toNat := by
  induction cells generalizing index i with
  | nil => simp at here
  | cons first rest ih =>
    rw [nonZeroCells]
    cases i with
    | zero =>
      obtain rfl := Option.some.inj here
      by_cases zero : first = 0
      · have missing : (nonZeroCells (index + 1) rest).find?
            (fun entry => entry.1.sameKey (.int ↑(index + 0))) = none := by
          rw [List.find?_eq_none]
          intro entry listed
          obtain ⟨j, cell, -, -, rfl⟩ := mem_nonZeroCells_iff.mp listed
          rw [sameKey_int, decide_eq_true_iff]
          omega
        rw [if_pos zero, cellNumber, missing, zero]
        rfl
      · rw [if_neg zero, cellNumber_cons, if_pos (Nat.add_zero index).symm]
    | succ i =>
      have rest : cellNumber (nonZeroCells (index + 1) rest) (index + (i + 1)) =
          .int cell.toNat := by
        rw [Nat.add_comm i 1, ← Nat.add_assoc]
        exact ih here
      by_cases zero : first = 0
      · rw [if_pos zero, rest]
      · rw [if_neg zero, cellNumber_cons, if_neg (by omega), rest]

private theorem map_cellNumber_range (cells : List UInt8) :
    (List.range cells.length).map (cellNumber (nonZeroCells 0 cells)) =
      cells.map fun b => .int b.toNat := by
  apply List.ext_getElem?
  intro i
  simp only [List.getElem?_map]
  by_cases inside : i < cells.length
  · have here := List.getElem?_eq_getElem inside
    have number : cellNumber (nonZeroCells 0 cells) (0 + i) = .int cells[i].toNat :=
      cellNumber_nonZeroCells here
    rw [Nat.zero_add] at number
    rw [List.getElem?_range inside, here, Option.map_some, number, Option.map_some]
  · have outside := Nat.le_of_not_lt inside
    rw [List.getElem?_eq_none (by rwa [List.length_range]), List.getElem?_eq_none outside]
    rfl

end Cells

section Observed

variable {m m' : Machine} {outcome outcome' : Outcome}

theorem map_toNat_outputText (m : Machine) :
    m.outputText.toList.map Char.toNat = m.output.toList.map UInt8.toNat := by
  rw [Machine.outputText, String.toList_ofList, List.map_map]
  apply List.map_congr_left
  intro b _
  have valid : b.toNat.isValidChar := .inl (by have := b.toNat_lt; omega)
  rw [Function.comp_apply, Char.ofNat, dif_pos valid]
  rfl

private theorem name_injective (same : outcome.name = outcome'.name) : outcome = outcome' := by
  cases outcome
  all_goals
    cases outcome'
    all_goals first | rfl | contradiction

private theorem map_int_toNat_injective {bytes bytes' : List UInt8}
    (same : (bytes.map fun b => Value.int b.toNat) = bytes'.map fun b => Value.int b.toNat) :
    bytes = bytes' := by
  have numbers : Function.Injective fun b : UInt8 => Value.int b.toNat := by
    intro b b' listed
    exact UInt8.toNat_inj.mp (Int.natCast_inj.mp (Value.int.inj listed))
  exact List.map_injective_iff.mpr numbers same

/-- What is observed of a run tells everything but the program, the loops and the input left. -/
theorem observed_injective (capacity : m.tape.capacity = m'.tape.capacity)
    (same : observed outcome m = observed outcome' m') :
    outcome = outcome' ∧ m.tape = m'.tape ∧ m.output = m'.output ∧ m.pc = m'.pc ∧
      m.steps = m'.steps ∧ m.unmatched = m'.unmatched := by
  simp only [observed, List.cons.injEq, Prod.mk.injEq, Value.str.injEq, Value.int.injEq,
    Value.list.injEq, Value.map.injEq, Int.natCast_inj, true_and, and_true] at same
  obtain ⟨-, output, pointer, pc, steps, state, unmatched, memory⟩ := same
  have cells : m.tape.cells = m'.tape.cells := by
    have listed := map_cellNumber_range m.tape.cells.toList
    have size : m.tape.cells.toList.length = m'.tape.cells.toList.length := by
      simpa [Tape.capacity] using capacity
    rw [memory, size, map_cellNumber_range] at listed
    exact Array.toList_inj.mp (map_int_toNat_injective listed).symm
  have tape : m.tape = m'.tape := by
    revert cells pointer
    cases m.tape
    cases m'.tape
    rintro rfl rfl
    rfl
  exact ⟨name_injective state, tape, Array.toList_inj.mp (map_int_toNat_injective output), pc,
    steps, unmatched⟩

/-- Fields that tell of the end of a run what there is to see of it. -/
structure Tells (seen : Value.Entries) (outcome : Outcome) (m : Machine) : Prop where
  /-- The text and the numbers that are given for the output stand for the same bytes. -/
  output : ∃ text, seen.get? "out_stdout" = some (.str text) ∧
    text.toList.map Char.toNat = m.output.toList.map UInt8.toNat ∧
    seen.get? "out_bytes" = some (.list (text.toList.map fun c => .int c.toNat))
  /-- The cells are got back from their number and from those that are listed. -/
  cells : ∃ listed, seen.get? "memory" = some (.map listed) ∧
    (∀ entry ∈ listed, ∃ (i : Nat) (cell : UInt8), m.tape.cells[i]? = some cell ∧ cell ≠ 0 ∧
      entry = (.int i, .int cell.toNat)) ∧
    (List.range m.tape.capacity).map (cellNumber listed) =
      m.tape.cells.toList.map fun b => .int b.toNat
  pointer : seen.get? "pointer" = some (.int m.tape.pointer)
  pc : seen.get? "pc" = some (.int m.pc)
  steps : seen.get? "steps" = some (.int m.steps)
  state : seen.get? "state" = some (.str outcome.name)
  unmatched : seen.get? "unmatched_loop_ends" = some (.int m.unmatched)

private theorem tells_observed (outcome : Outcome) (m : Machine) :
    Tells (observed outcome m) outcome m where
  output := by
    refine ⟨m.outputText, rfl, map_toNat_outputText m, ?_⟩
    have numbers : (m.outputText.toList.map fun c => Value.int c.toNat) =
        m.output.toList.map fun b => .int b.toNat := by
      have same := congrArg (List.map fun n : Nat => Value.int n) (map_toNat_outputText m)
      rwa [List.map_map, List.map_map] at same
    rw [numbers]
    rfl
  cells := by
    refine ⟨nonZeroCells 0 m.tape.cells.toList, rfl, ?_, ?_⟩
    · intro entry listed
      obtain ⟨i, cell, here, nonzero, same⟩ := mem_nonZeroCells_iff.mp listed
      rw [Nat.zero_add] at same
      exact ⟨i, cell, by rwa [Array.getElem?_toList] at here, nonzero, same⟩
    · exact map_cellNumber_range m.tape.cells.toList
  pointer := rfl
  pc := rfl
  steps := rfl
  state := rfl
  unmatched := rfl

end Observed

/--
A record with a source text is run as a session runs this text, with the input and the configuration
of the record: both fail alike, or both give the same report, and neither comes to an end if the
program runs for ever, which takes a configuration that sets no limit. What is observed tells the
output, the cells and all counters, so that ends of runs that differ in these are told apart.
-/
theorem run_as_session {entries : Value.Entries} {source input : String} {config : Value}
    (sourced : entries.get? sourceKey = some (.str source))
    (fed : entries.get? inputKey = some (.str input) ∨
      entries.get? inputKey = none ∧ input = "")
    (configured : (entries.get? configKey).getD .null = config) (w : Workspace) :
    let session := Session.runSource source input (if config.isTruthy then config else .map [])
    let ran := run w.directory (.map entries)
    (session.run w).1 = ran.map report ∧
    (ran = .error .endless ↔ ∃ c m,
      Config.load w.directory (if config.isTruthy then config else .map []) = .ok c ∧
        c.stepLimit = none ∧ Session.machine c = .ok m ∧
        ∀ n, (((m.load (Opcode.ofSource source.toList)).feed
          (inputBytes input)).reset.after n).halted = false) ∧
    ∀ outcome m, Tells (observed outcome m) outcome m ∧
      ∀ outcome' m', m.tape.capacity = m'.tape.capacity →
        observed outcome m = observed outcome' m' →
        outcome = outcome' ∧ m.tape = m'.tape ∧ m.output = m'.output ∧ m.pc = m'.pc ∧
          m.steps = m'.steps ∧ m.unmatched = m'.unmatched := by
  have config' : configOf entries = if config.isTruthy then config else .map [] := by
    rw [configOf_eq, configured]
  have input' : inputOf entries = .str input := by
    rw [inputOf]
    rcases fed with given | ⟨missing, rfl⟩
    · rw [given]
      rfl
    · rw [missing]
      rfl
  intro session ran
  have same : (session.run w).1 = ran.map report := by
    have answered := runSource_eq w sourced input'
    rwa [config'] at answered
  refine ⟨same, ?_, ?_⟩
  · have endless : ran = .error .endless ↔ (session.run w).1 = .error .endless := by
      rw [same]
      cases ran <;> simp [Except.map]
    exact endless.trans Session.run_configured_eq_endless_iff
  · intro outcome m
    exact ⟨tells_observed outcome m, fun _ _ => observed_injective⟩

theorem run_as_session_echo :
    let configured := (Value.str configKey, Value.map [(.str "memory_cells", .int 2)])
    let fed : Value.Entries := [(.str sourceKey, .str ",+."), (.str inputKey, .str "a"), configured]
    let bare : Value.Entries := [(.str sourceKey, .str ",+."), configured]
    let w : Workspace := ⟨⟨[]⟩, "", none⟩
    let session := fun input : String =>
      ((Session.runSource ",+." input (.map [(.str "memory_cells", .int 2)])).run w).1
    session "a" = .ok ⟨"b", 4, .halted⟩ ∧
      (run w.directory (.map fed)).map report = .ok ⟨"b", 4, .halted⟩ ∧
    session "" = .ok ⟨"\x01", 4, .halted⟩ ∧
      (run w.directory (.map bare)).map report = .ok ⟨"\x01", 4, .halted⟩ := by
  intro configured fed bare w session
  have echoed := @run_as_session fed ",+." "a" _ rfl (.inl rfl) rfl w
  have blank := @run_as_session bare ",+." "" _ rfl (.inr ⟨rfl, rfl⟩) rfl w
  have fedEnd : session "a" = .ok ⟨"b", 4, .halted⟩ := by decide +kernel
  have bareEnd : session "" = .ok ⟨"\x01", 4, .halted⟩ := by decide +kernel
  refine ⟨fedEnd, ?_, bareEnd, ?_⟩
  · rw [← fedEnd]
    exact echoed.1.symm
  · rw [← bareEnd]
    exact blank.1.symm

end Record

end TapeMachine
