import Mathlib.Data.List.Forall2
import TapeMachine.Proofs.Machine.History

/-!
Values of any type that a machine is asked to load or to write. Main statement: a value that cannot
be used, wherever its fault lies, leaves no trace, so that such operations can be struck out of any
history; and every other value takes the place of what was there before, as a whole.
-/

set_option autoImplicit false

namespace TapeMachine

namespace Value

def fault? {α : Type} : Except Fault α → Option Fault
  | .ok _ => none
  | .error fault => some fault

/-- Why a sequence cannot be read: it has no elements, or the first of them that is at fault. -/
def firstFault? (faultOf : Value → Option Fault) (sequence : Value) : Option Fault :=
  match sequence.elements with
  | .ok items => items.findSome? faultOf
  | .error fault => some fault

/-- Whether a value has elements, all of one kind. -/
def ConsistsOf (kind : Value → Prop) (sequence : Value) : Prop :=
  ∃ items, sequence.elements = .ok items ∧ ∀ v ∈ items, kind v

/-- Whether a value is a single character of a text, or a single byte of a byte string. -/
def IsCharacter : Value → Prop
  | str text => text.toList.length = 1
  | bytes bs => bs.length = 1
  | _ => False

end Value

namespace Operation

/-- Whether an operation is given a value that it has to convert. -/
def Converts : Operation → Prop
  | loadTokens _ => True
  | loadCodes _ => True
  | loadInput _ => True
  | store _ => True
  | _ => False

/-- Whether an operation can use the value that it has to convert, if it has to. -/
def Usable : Operation → Prop
  | loadTokens tokens => tokens.ConsistsOf fun v => v.unhashableType? = none
  | loadCodes codes => codes.ConsistsOf fun v => ∃ n, v.toInt = .ok n
  | loadInput text => text.ConsistsOf Value.IsCharacter
  | store v => ∃ n, v.toInt = .ok n
  | _ => True

/-- Why a load or a write cannot use its value. -/
def fault? : Operation → Option Value.Fault
  | loadTokens tokens => tokens.firstFault? fun v => Value.fault? v.toOpcode
  | loadCodes codes => codes.firstFault? fun v => Value.fault? v.toInt
  | loadInput text => text.firstFault? fun v => Value.fault? v.toInputByte
  | store v => Value.fault? v.toInt
  | _ => none

/-- What a load or a write makes of a machine, element by element of the value that it is given. -/
def Replaces (m m' : Machine) : Operation → Prop
  | loadTokens tokens => ∃ items ops, tokens.elements = .ok items ∧
      List.Forall₂ (fun v op => v.toOpcode = .ok op) items ops ∧
      m' = ({ m with code := ops.toArray } : Machine).reset
  | loadCodes codes => ∃ items ops, codes.elements = .ok items ∧
      List.Forall₂ (fun v op => ∃ n, v.toInt = .ok n ∧ Opcode.ofCode n = op) items ops ∧
      m' = ({ m with code := ops.toArray } : Machine).reset
  | loadInput text => ∃ items bytes, text.elements = .ok items ∧
      List.Forall₂ (fun v b => v.toInputByte = .ok b) items bytes ∧
      m' = ({ m with input := bytes } : Machine).reset
  | store v => ∃ n, v.toInt = .ok n ∧ m' = { m with tape := m.tape.write (lowByte n) }
  | _ => False

end Operation

namespace Value

section Reading

variable {α β : Type} {x : Except Fault α} {faultOf : Value → Option Fault} {sequence v : Value}

private theorem eq_error_iff {fault : Fault} : x = .error fault ↔ fault? x = some fault := by
  cases x <;> simp [fault?]

theorem fault?_eq_none_iff : fault? x = none ↔ ∃ a, x = .ok a := by
  cases x <;> simp [fault?]

private theorem fault?_bind_pure (f : α → β) : fault? (x >>= fun a => pure (f a)) = fault? x := by
  cases x <;> rfl

private theorem fault?_mapM (read : Value → Except Fault α) (items : List Value) :
    fault? (items.mapM read) = items.findSome? fun v => fault? (read v) := by
  induction items with
  | nil => rfl
  | cons v rest ih =>
    rw [List.mapM_cons, List.findSome?_cons, ← ih]
    cases read v with
    | error fault => rfl
    | ok a => exact fault?_bind_pure (a :: ·)

private theorem fault?_elements {read : Value → Except Fault α}
    (same : ∀ v, fault? (read v) = faultOf v) :
    fault? (sequence.elements >>= fun items => items.mapM read) =
      sequence.firstFault? faultOf := by
  rw [firstFault?]
  cases sequence.elements with
  | error fault => rfl
  | ok items => exact (fault?_mapM read items).trans (congrArg items.findSome? (funext same))

private theorem firstFault?_eq_none_iff :
    sequence.firstFault? faultOf = none ↔ sequence.ConsistsOf fun v => faultOf v = none := by
  rw [firstFault?, ConsistsOf]
  cases sequence.elements <;> simp

private theorem exists_toOpcode_iff : (∃ op, v.toOpcode = .ok op) ↔ v.unhashableType? = none := by
  unfold toOpcode
  cases v.unhashableType? with
  | some typeName => simp
  | none =>
    simp only [iff_true]
    split
    · split <;> exact ⟨_, rfl⟩
    · exact ⟨_, rfl⟩

private theorem exists_toInputByte_iff : (∃ b, v.toInputByte = .ok b) ↔ v.IsCharacter := by
  cases v with
  | str text =>
    rw [toInputByte, IsCharacter, List.length_eq_one_iff]
    split
    · next c single => simp [single]
    · next several =>
      simp only [reduceCtorEq, exists_false, false_iff]
      rintro ⟨c, single⟩
      exact several c single
  | bytes bs =>
    rw [IsCharacter, List.length_eq_one_iff]
    rcases bs with - | ⟨b, - | ⟨b', rest⟩⟩ <;> simp [toInputByte]
  | _ => simp [toInputByte, IsCharacter]

end Reading

end Value

namespace Operation

variable {operation : Operation}

theorem usable_iff : operation.Usable ↔ operation.fault? = none := by
  cases operation with
  | loadTokens tokens =>
    simp only [Usable, fault?, Value.firstFault?_eq_none_iff, Value.fault?_eq_none_iff,
      Value.exists_toOpcode_iff]
  | loadCodes codes =>
    simp only [Usable, fault?, Value.firstFault?_eq_none_iff, Value.fault?_eq_none_iff]
  | loadInput text =>
    simp only [Usable, fault?, Value.firstFault?_eq_none_iff, Value.fault?_eq_none_iff,
      Value.exists_toInputByte_iff]
  | store v => exact Value.fault?_eq_none_iff.symm
  | _ => simp [Usable, fault?]

instance : DecidablePred Operation.Usable := fun _ => decidable_of_iff _ usable_iff.symm

end Operation

namespace Machine

variable {m m' : Machine} {operation : Operation}

private theorem accept_of_fault? {loaded : Except Value.Fault Machine} {fault : Value.Fault}
    (faulty : Value.fault? loaded = some fault) : m.accept loaded = (.refused fault, m) := by
  rw [Value.eq_error_iff.mpr faulty]
  rfl

theorem apply_of_fault? {fault : Value.Fault} (faulty : operation.fault? = some fault)
    (m : Machine) : operation.apply m = (.refused fault, m) := by
  cases operation with
  | loadTokens tokens =>
    refine accept_of_fault? ?_
    rw [Machine.loadTokens, Value.fault?_bind_pure, ← faulty]
    exact Value.fault?_elements fun v => rfl
  | loadCodes codes =>
    refine accept_of_fault? ?_
    rw [Machine.loadCodes, Value.fault?_bind_pure, ← faulty]
    exact Value.fault?_elements fun v => Value.fault?_bind_pure _
  | loadInput text =>
    refine accept_of_fault? ?_
    rw [Machine.loadInput, Value.fault?_bind_pure, ← faulty]
    exact Value.fault?_elements fun v => rfl
  | store v =>
    refine accept_of_fault? ?_
    rw [storeValue, Value.fault?_bind_pure]
    exact faulty
  | _ => contradiction

/-- What is refused for its value is as if it had not been asked for, whatever is asked for next. -/
theorem course_of_fault? {fault : Value.Fault} (faulty : operation.fault? = some fault)
    (lenient : Bool) (later : List Operation) (m : Machine) :
    m.course lenient (operation :: later) = ⟨.refused fault, [], m⟩ :: m.course lenient later := by
  have silent : operation.events lenient m (.refused fault, m) = [] := by
    cases operation <;> first | rfl | contradiction
  rw [course, apply_of_fault? faulty, silent]

private theorem course_filter_usable (lenient : Bool) (history : List Operation) (m : Machine) :
    m.course lenient (history.filter fun operation => operation.Usable) =
      ((history.zip (m.course lenient history)).filter fun entry => entry.1.Usable).map
        Prod.snd := by
  induction history generalizing m with
  | nil => rfl
  | cons operation rest ih =>
    cases faulty : operation.fault? with
    | none =>
      have usable : operation.Usable := Operation.usable_iff.mpr faulty
      simp only [List.filter_cons, usable, decide_true, if_true, course, List.zip_cons_cons,
        List.map_cons, ih]
    | some fault =>
      have unusable : ¬ operation.Usable := by simp [Operation.usable_iff, faulty]
      simp only [List.filter_cons, unusable, decide_false, Bool.false_eq_true, if_false,
        course_of_fault? faulty, List.zip_cons_cons, ih]

private theorem exists_forall₂_of_usable {α : Type} {sequence : Value}
    (read : Value → Except Value.Fault α)
    (sound : sequence.ConsistsOf fun v => ∃ a, read v = .ok a) : ∃ items results,
      sequence.elements = .ok items ∧ List.Forall₂ (fun v a => read v = .ok a) items results ∧
      (sequence.elements >>= fun items => items.mapM read) = .ok results := by
  obtain ⟨items, listed, each⟩ := sound
  obtain ⟨results, done⟩ := exists_mapM each
  exact ⟨items, results, listed, mapM_eq_ok_iff.mp done, by rw [listed]; exact done⟩

theorem replaces_of_usable (converts : operation.Converts) (usable : operation.Usable)
    (m : Machine) :
    (operation.apply m).1 = .done ∧ operation.Replaces m (operation.apply m).2 := by
  cases operation with
  | loadTokens tokens =>
    obtain ⟨items, listed, hashable⟩ := usable
    obtain ⟨_, ops, same, read, program⟩ := exists_forall₂_of_usable Value.toOpcode
      ⟨items, listed, fun v present => Value.exists_toOpcode_iff.mpr (hashable v present)⟩
    rw [apply_loadTokens program]
    exact ⟨rfl, _, ops, same, read, rfl⟩
  | loadCodes codes =>
    obtain ⟨items, listed, integers⟩ := usable
    obtain ⟨_, ops, same, read, program⟩ := exists_forall₂_of_usable
      (fun v => return Opcode.ofCode (← v.toInt))
      ⟨items, listed, fun v present => exists_bind_pure_iff.mpr (integers v present)⟩
    rw [apply_loadCodes program]
    exact ⟨rfl, _, ops, same, read.imp fun _ _ => bind_pure_eq_ok_iff.mp, rfl⟩
  | loadInput text =>
    obtain ⟨items, listed, characters⟩ := usable
    obtain ⟨_, bytes, same, read, input⟩ := exists_forall₂_of_usable Value.toInputByte
      ⟨items, listed, fun v present => Value.exists_toInputByte_iff.mpr (characters v present)⟩
    rw [apply_loadInput input]
    exact ⟨rfl, _, bytes, same, read, rfl⟩
  | store v =>
    obtain ⟨n, integer⟩ := usable
    rw [Operation.apply, storeValue, integer]
    exact ⟨rfl, n, integer, rfl⟩
  | _ => exact converts.elim

/--
Whatever state a machine is in: a value that cannot be loaded or written, be it for the last of its
elements, is refused with the fault that comes first, and nothing of the machine changes. All that
can be seen later, and so of a history without the operations of this kind, is the same as if they
had not been asked for. A value in which every element can be used is not refused: a load puts it in
the place of the program or the input and resets, a write puts its low byte into the cell.
-/
theorem refusals_leave_no_trace (m : Machine) :
    (∀ operation : Operation, ¬ operation.Usable → ∃ fault, operation.fault? = some fault ∧
      operation.apply m = (.refused fault, m) ∧
      ∀ lenient later, m.course lenient (operation :: later) =
        ⟨.refused fault, [], m⟩ :: m.course lenient later) ∧
    (∀ operation : Operation, operation.Converts → operation.Usable →
      (operation.apply m).1 = .done ∧ operation.Replaces m (operation.apply m).2) ∧
    ∀ (lenient : Bool) (history : List Operation),
      m.course lenient (history.filter fun operation => operation.Usable) =
        ((history.zip (m.course lenient history)).filter fun entry => entry.1.Usable).map
        Prod.snd := by
  refine ⟨?_, fun operation converts usable => replaces_of_usable converts usable m,
    fun lenient history => course_filter_usable lenient history m⟩
  intro operation unusable
  obtain ⟨fault, faulty⟩ := Option.ne_none_iff_exists'.mp (mt Operation.usable_iff.mpr unusable)
  exact ⟨fault, faulty, apply_of_fault? faulty m,
    fun lenient later => course_of_fault? faulty lenient later m⟩

/--
A machine has stopped inside a loop, with output written and input unread. Loads are refused for
their last elements, a write for its only one; a load of numerals is not.
-/
theorem refusals_leave_no_trace_inside_loop :
    let past : List Operation :=
      [.loadTokens (.str "]+.[>,.]"), .loadInput (.str "ab"), .run (.int 7)]
    let m := (new (Tape.blank 2 Nat.two_pos)).operate past
    let unusable : List Operation :=
      [.loadTokens (.list [.str "-", .null, .pair (.int 1) (.list [])]),
        .loadCodes (.list [.int 2, .str "2.0", .null]), .loadInput (.list [.str "c", .str "de"]),
        .loadInput (.bytes [99]), .store (.float .nan), .loadCodes (.int 2)]
    let codes : Operation := .loadCodes (.list [.str " 2 ", .bytes [54], .int 300])
    let history := unusable ++ [codes, .step]
    (m.pc, m.loops, m.output, m.input, m.unmatched) = (7, [4], #[1, 97], [98], 1) ∧
    (∀ operation ∈ unusable, ¬ operation.Usable ∧ (operation.apply m).2 = m) ∧
    m.replies unusable = [.refused (.unhashable "list"), .refused (.badNumeral 10 "'2.0'"),
      .refused (.wrongLength 2), .refused (.notText "int"), .refused .nanToInteger,
      .refused (.notIterable "int")] ∧
    codes.Usable ∧ codes.Replaces m (codes.apply m).2 ∧
    (codes.apply m).2 = ({ m with code := #[.dec, .write, .nop] } : Machine).reset ∧
    m.course false [codes, .step] = (m.course false history).drop 6 := by
  intro past m unusable codes history
  obtain ⟨refused, accepted, struck⟩ := refusals_leave_no_trace m
  have each : ∀ operation ∈ unusable, ¬ operation.Usable := by decide +kernel
  have usable : codes.Usable := by decide +kernel
  refine ⟨by decide +kernel, ?_, by decide +kernel, usable, (accepted codes trivial usable).2,
    by decide +kernel, struck false history⟩
  intro operation present
  obtain ⟨fault, -, same, -⟩ := refused operation (each operation present)
  exact ⟨each operation present, by rw [same]⟩

end Machine

end TapeMachine
