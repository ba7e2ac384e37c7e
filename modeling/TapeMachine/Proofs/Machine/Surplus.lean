import TapeMachine.Proofs.Machine.Executions

/-!
Input behind the input. Main statement: a machine does the same with more to read as with less, for
as long as no read finds nothing; and it does the same for ever if what it has more are zeros only,
since a read that finds nothing stores a zero as well.
-/

set_option autoImplicit false

namespace TapeMachine

/-- Whether an instruction reads where nothing is left to read. -/
def Execution.Starved (e : Execution) : Prop := e.op = .read ∧ e.before.input = []

instance : DecidablePred Execution.Starved := fun _ => inferInstanceAs (Decidable (_ ∧ _))

private theorem Plain.effect_input_append {p : Plain} {c : Contents} (more : List Nat)
    (fed : p = .read → c.input ≠ []) :
    p.effect { c with input := c.input ++ more } =
      { p.effect c with input := (p.effect c).input ++ more } := by
  cases p with
  | read =>
    obtain ⟨cells, pointer, input, output⟩ := c
    cases input with
    | nil => exact absurd rfl (fed rfl)
    | cons b rest => rfl
  | _ => rfl

namespace Machine

/-- The machine with more to read behind its unread input. -/
def supply (more : List UInt8) (m : Machine) : Machine := { m with input := m.input ++ more }

/-- The machine apart from its unread input. -/
def unfed (m : Machine) : Machine := { m with input := [] }

variable {m m' : Machine} {more : List UInt8}

private theorem current?_supply (m : Machine) : (m.supply more).current? = m.current? := rfl

private theorem unfed_supply (m : Machine) : (m.supply more).unfed = m.unfed := rfl

private theorem contents_supply (m : Machine) : (m.supply more).contents =
    { m.contents with input := m.contents.input ++ more.map UInt8.toNat } := by
  simp [contents, supply, Contents.of]

private theorem move_supply (move : Move m m')
    (fed : ∀ op, m.current? = some op → ¬ Execution.Starved ⟨op, m.passed⟩) :
    Move (m.supply more) (m'.supply more) := by
  refine move_refit (f := id) (g := (· ++ more)) move rfl ?_
  intro p tape input output here effect
  have waiting : p = .read → m.contents.input ≠ [] := by
    rintro rfl none
    exact fed .read here ⟨rfl, List.map_eq_nil_iff.mp none⟩
  calc Contents.of tape (input ++ more) output
      = { p.effect m.contents with
          input := (p.effect m.contents).input ++ more.map UInt8.toNat } := by
        rw [← effect]
        simp [Contents.of]
    _ = p.effect (m.supply more).contents := by
        rw [contents_supply, Plain.effect_input_append _ waiting]

theorem after_supply {n : Nat} (fed : ∀ e ∈ m.executions n, ¬ e.Starved) :
    (m.supply more).after n = (m.after n).supply more :=
  after_map (fun {a} stopped => (current?_supply a).trans stopped) move_supply fed

section Zeros

private theorem exists_next_supply_zeros (zeros : Nat) (m : Machine) :
    ∃ left, (m.supply (List.replicate zeros 0)).next =
      m.next.supply (List.replicate left 0) := by
  by_cases stopped : m.current? = none
  · have stopped' : (m.supply (List.replicate zeros 0)).current? = none :=
      (current?_supply m).trans stopped
    rw [next_of_current?_eq_none stopped, next_of_current?_eq_none stopped']
    exact ⟨zeros, rfl⟩
  · by_cases starved : m.current? = some .read ∧ m.input = []
    · obtain ⟨here, empty⟩ := starved
      have here' : (m.supply (List.replicate zeros 0)).current? = some .read :=
        (current?_supply m).trans here
      rw [next_eq_perform here, next_eq_perform here']
      obtain ⟨code, pc, loops, tape, input, output, steps, halted, unmatched⟩ := m
      obtain rfl : input = [] := empty
      cases zeros with
      | zero => exact ⟨0, rfl⟩
      | succ zeros => exact ⟨zeros, rfl⟩
    · have fed : ∀ op, m.current? = some op → ¬ Execution.Starved ⟨op, m.passed⟩ := by
        rintro op here ⟨rfl, empty⟩
        exact starved ⟨here, empty⟩
      exact ⟨zeros, (move_supply (move_next stopped) fed).next_eq⟩

private theorem exists_after_supply_zeros (zeros n : Nat) (m : Machine) :
    ∃ left, (m.supply (List.replicate zeros 0)).after n =
      (m.after n).supply (List.replicate left 0) := by
  induction n with
  | zero => exact ⟨zeros, rfl⟩
  | succ n ih =>
    obtain ⟨left, same⟩ := ih
    rw [after_succ, after_succ, same]
    exact exists_next_supply_zeros left (m.after n)

private theorem unfed_after_supply_zeros (zeros n : Nat) (m : Machine) :
    ((m.supply (List.replicate zeros 0)).after n).unfed = (m.after n).unfed := by
  obtain ⟨left, same⟩ := exists_after_supply_zeros zeros n m
  rw [same, unfed_supply]

end Zeros

section Run

variable {a b : Machine}

private theorem current?_eq_of_unfed_eq (same : b.unfed = a.unfed) : b.current? = a.current? := by
  change b.unfed.current? = a.unfed.current?
  rw [same]

private theorem finished_eq_of_unfed_eq (same : b.unfed = a.unfed) : b.finished = a.finished := by
  change b.unfed.finished = a.unfed.finished
  rw [same]

/-- Machines that differ after every step in what is left to read only have runs that do so. -/
theorem map_unfed_run (same : ∀ n, (b.reset.after n).unfed = (a.reset.after n).unfed)
    (budget : Option Nat) :
    (b.run budget).map (Prod.map id unfed) = (a.run budget).map (Prod.map id unfed) := by
  cases budget with
  | some k =>
    have within (m : Machine) : m.runWithin k =
        (if (m.reset.after k).finished then .halted else .limit, m.reset.after k) := by
      rw [runWithin, advance_eq_after k rfl]
    simp only [run, within, Option.map_some, Prod.map_apply, id_eq, same k,
      finished_eq_of_unfed_eq (same k)]
  | none =>
    cases ran : a.run none with
    | none =>
      have endless : b.run none = none := by
        rw [run_none_eq_none_iff] at ran ⊢
        intro n
        rw [current?_eq_of_unfed_eq (same n)]
        exact ran n
      rw [endless]
    | some result =>
      obtain ⟨outcome, last⟩ := result
      obtain ⟨rfl, stopped, n, rfl⟩ := run_none_eq_some_iff.mp ran
      have stopped' : (b.reset.after n).current? = none := by
        rw [current?_eq_of_unfed_eq (same n)]
        exact stopped
      have ran' : b.run none = some (.halted, b.reset.after n) :=
        run_none_eq_some_iff.mpr ⟨rfl, stopped', n, rfl⟩
      rw [ran']
      simp only [Option.map_some, Prod.map_apply, id_eq, same n]

end Run

section Input

private theorem inputBytes_append (t u : String) :
    inputBytes (t ++ u) = inputBytes t ++ inputBytes u := by
  simp [inputBytes]

private theorem inputBytes_eq_zeros {u : String} (multiples : ∀ c ∈ u.toList, 256 ∣ c.toNat) :
    inputBytes u = List.replicate u.toList.length 0 := by
  rw [inputBytes, List.eq_replicate_iff]
  refine ⟨List.length_map _, ?_⟩
  intro b among
  obtain ⟨c, within, rfl⟩ := List.mem_map.mp among
  obtain ⟨k, number⟩ := multiples c within
  apply UInt8.toNat_inj.mp
  rw [UInt8.toNat_ofNat', number]
  exact Nat.mul_mod_right 256 k

/--
A machine is loaded with an input, and with the same input and more behind it. Before a read finds
nothing left of the shorter one, both machines are the same after every step except for what is
left to read, and what the longer one has left more is what it was given more. If the numbers of
the characters given more are multiples of 256, then both machines are the same after any number of
steps except for what is left to read, and so are their runs, of which both end or neither does.
-/
theorem exhausted_input_reads_zeros (m : Machine) (t u : String) :
    let short := ((Operation.loadInput (.str t)).apply m).2
    let long := ((Operation.loadInput (.str (t ++ u))).apply m).2
    (∀ n, (∀ e ∈ short.executions n, ¬ e.Starved) →
      (long.after n).unfed = (short.after n).unfed ∧
        (long.after n).input = (short.after n).input ++ inputBytes u) ∧
    ((∀ c ∈ u.toList, 256 ∣ c.toNat) →
      (∀ n, (long.after n).unfed = (short.after n).unfed) ∧
        ∀ budget, (long.run budget).map (Prod.map id unfed) =
          (short.run budget).map (Prod.map id unfed)) := by
  intro short long
  have longer : long = short.supply (inputBytes u) := by
    simp only [long, short, apply_loadInput (Value.toInputBytes_str _), inputBytes_append]
    rfl
  have again : short.reset = short := by
    simp [short, apply_loadInput (Value.toInputBytes_str t), feed, reset, Tape.reset, Tape.blank]
  have again' : long.reset = long := by
    rw [longer]
    exact congrArg (supply (inputBytes u)) again
  constructor
  · intro n fed
    rw [longer, after_supply fed]
    exact ⟨rfl, rfl⟩
  · intro multiples
    have same (n : Nat) : (long.after n).unfed = (short.after n).unfed := by
      rw [longer, inputBytes_eq_zeros multiples, unfed_after_supply_zeros]
    refine ⟨same, fun budget => ?_⟩
    apply map_unfed_run
    intro n
    rw [again, again']
    exact same n

theorem exhausted_input_reads_zeros_two_more :
    let m := (new (Tape.blank 1 Nat.one_pos)).load [.read, .write, .read, .read, .inc, .write]
    let short := ((Operation.loadInput (.str "a")).apply m).2
    let long := ((Operation.loadInput (.str ("a" ++ "ĀȀ"))).apply m).2
    (∀ e ∈ short.executions 2, ¬ e.Starved) ∧ (∀ c ∈ "ĀȀ".toList, 256 ∣ c.toNat) ∧
    (long.after 2).input = (short.after 2).input ++ inputBytes "ĀȀ" ∧
    (long.after 3).unfed = (short.after 3).unfed ∧
    (long.run none).map (Prod.map id unfed) = (short.run none).map (Prod.map id unfed) ∧
    ∃ last, short.run none = some (.halted, last) ∧ last.output = #[97, 1] := by
  intro m short long
  have fed : ∀ e ∈ short.executions 2, ¬ e.Starved := by decide +kernel
  have multiples : ∀ c ∈ "ĀȀ".toList, 256 ∣ c.toNat := by
    have all : "ĀȀ".toList.all (256 ∣ ·.toNat) = true := by decide +kernel
    intro c there
    exact of_decide_eq_true (List.all_eq_true.mp all c there)
  have ran : short.run none = some (.halted, short.after 7) := by decide +kernel
  obtain ⟨before, zeros⟩ := exhausted_input_reads_zeros m "a" "ĀȀ"
  exact ⟨fed, multiples, (before 2 fed).2, (zeros multiples).1 3, (zeros multiples).2 none, _, ran,
    by decide +kernel⟩

end Input

end Machine

end TapeMachine
