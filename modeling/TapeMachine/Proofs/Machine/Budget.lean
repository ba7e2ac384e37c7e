import Mathlib.Data.ENat.Lattice
import TapeMachine.Proofs.Machine.Halting

/-!
Runs under a budget. Main statements: such a run makes as many steps as both the budget and the
program allow, so that budgets compose; and a budget of as many instructions as there are
configurations is enough for every run that ever ends.
-/

set_option autoImplicit false

namespace TapeMachine.Machine

/-- How many instructions a run without a budget executes; infinitely many if it never ends. -/
def runLength (m : Machine) : ℕ∞ :=
  match m.run none with
  | some (_, last) => last.steps
  | none => ⊤

variable {m : Machine} {k : Nat}

section Length

theorem steps_after_reset (n : Nat) (m : Machine) :
    (m.reset.after n).steps = (executed n m.reset).length := by
  rw [steps_after]
  exact Nat.zero_add _

theorem runLength_le_iff : m.runLength ≤ k ↔ (m.reset.after k).current? = none := by
  cases ran : m.run none with
  | none =>
    have endless : m.runLength = ⊤ := by rw [runLength, ran]
    have uncovered : ¬ m.runLength ≤ k := by
      rw [endless, top_le_iff]
      exact ENat.natCast_ne_top k
    exact iff_of_false uncovered (run_none_eq_none_iff.mp ran k)
  | some result =>
    obtain ⟨outcome, last⟩ := result
    obtain ⟨-, stopped, n, rfl⟩ := run_none_eq_some_iff.mp ran
    have length : m.runLength = (executed n m.reset).length := by
      rw [runLength, ran, ← steps_after_reset]
    rw [length, Nat.cast_le, ← Nat.not_lt, lt_length_executed_iff]
    constructor
    · intro covered
      by_contra left
      have early : k < n := by
        by_contra late
        exact left (current?_after_eq_none_of_le stopped (by omega))
      exact covered ⟨early, left⟩
    · rintro done ⟨-, left⟩
      exact left done

theorem steps_of_running (left : (m.reset.after k).current? ≠ none) :
    (m.reset.after k).steps = k := by
  rw [steps_after_reset]
  have atMost : ¬ k < (executed k m.reset).length := by
    rw [lt_length_executed_iff]
    rintro ⟨less, -⟩
    omega
  have atLeast : ¬ (executed k m.reset).length < k := by
    intro less
    have beyond : ¬ (executed k m.reset).length < (executed k m.reset).length :=
      Nat.lt_irrefl _
    rw [lt_length_executed_iff, not_and, not_not] at beyond
    exact left (current?_after_eq_none_of_le (beyond less) less.le)
  omega

theorem halted_after_reset_iff : (m.reset.after k).halted = true ↔ m.runLength ≤ k := by
  rw [runLength_le_iff]
  exact ((Sound.reset m).after k).halted_iff

theorem runLength_ne_top_iff : m.runLength ≠ ⊤ ↔ ∃ result, m.run none = some result := by
  cases ran : m.run none with
  | none => simp [runLength, ran]
  | some result => simp [runLength, ran]

theorem run_eq_none_iff {budget : Option Nat} :
    m.run budget = none ↔ budget = none ∧ ∀ n, (m.reset.after n).halted = false := by
  have going (n : Nat) :
      (m.reset.after n).current? ≠ none ↔ (m.reset.after n).halted = false := by
    rw [← Bool.not_eq_true, ((Sound.reset m).after n).halted_iff]
  cases budget with
  | none => simp only [run_none_eq_none_iff, going, true_and]
  | some k => simp [run]

private theorem after_min_runLength (k : Nat) (m : Machine) :
    m.reset.after (min (k : ℕ∞) m.runLength).toNat = m.reset.after k := by
  rcases le_total (k : ℕ∞) m.runLength with le | le
  · rw [min_eq_left le, ENat.toNat_natCast]
  · have finite : m.runLength ≠ ⊤ := ne_top_of_le_ne_top (ENat.natCast_ne_top k) le
    obtain ⟨n, length⟩ := ENat.ne_top_iff_exists.mp finite
    have stopped := runLength_le_iff.mp length.ge
    rw [← length, Nat.cast_le] at le
    rw [← length, min_eq_right (Nat.cast_le.mpr le), ENat.toNat_natCast]
    exact after_eq_after stopped (current?_after_eq_none_of_le stopped le)

end Length

section Within

theorem runWithin_snd (k : Nat) (m : Machine) : (m.runWithin k).2 = m.reset.after k :=
  advance_eq_after k rfl

theorem runWithin_eq_halted_iff : (m.runWithin k).1 = .halted ↔ m.runLength ≤ k := by
  have last : m.reset.advance k = m.reset.after k := advance_eq_after k rfl
  rw [runLength_le_iff, ← ((Sound.reset m).after k).finished_iff, runWithin, last]
  cases (m.reset.after k).finished <;> simp

private theorem runWithin_eq_limit (short : ¬ m.runLength ≤ k) : (m.runWithin k).1 = .limit := by
  rw [← runWithin_eq_halted_iff] at short
  cases ended : (m.runWithin k).1 with
  | halted => exact absurd ended short
  | limit => rfl

theorem run_some_eq_run_none (covered : m.runLength ≤ k) : m.run (some k) = m.run none := by
  have stopped := runLength_le_iff.mp covered
  have unlimited : m.run none = some (.halted, m.reset.after k) :=
    run_none_eq_some_iff.mpr ⟨rfl, stopped, k, rfl⟩
  rw [unlimited, run]
  exact congrArg some (Prod.ext (runWithin_eq_halted_iff.mpr covered) (runWithin_snd k m))

/--
A run under a budget leads as far as single steps do, of which it takes as many as the budget and
the length of the unlimited run allow. It halts exactly if the budget covers that length, and is the
unlimited run then; else it stops at the limit, with all of the budget spent. What a smaller budget
leaves can be continued by single steps, and has written a first part of the output.
-/
theorem budgets_compose (m : Machine) (k : Nat) :
    m.run (some k) = some (m.runWithin k) ∧
    (m.runWithin k).2 = m.reset.after (min (k : ℕ∞) m.runLength).toNat ∧
    ((m.runWithin k).1 = .halted ↔ m.runLength ≤ k) ∧
    (¬ m.runLength ≤ k → (m.runWithin k).1 = .limit ∧ (m.runWithin k).2.steps = k ∧
      (m.runWithin k).2.halted = false) ∧
    (∀ j ≤ k, (m.runWithin j).2.after (k - j) = (m.runWithin k).2 ∧
      (m.runWithin j).2.output.toList <+: (m.runWithin k).2.output.toList) ∧
    (m.runLength ≤ k → m.run (some k) = m.run none) := by
  refine ⟨rfl, ?_, runWithin_eq_halted_iff, ?_, ?_, run_some_eq_run_none⟩
  · rw [runWithin_snd, after_min_runLength]
  · intro short
    have left : (m.reset.after k).current? ≠ none := fun stopped =>
      short (runLength_le_iff.mpr stopped)
    rw [runWithin_snd]
    exact ⟨runWithin_eq_limit short, steps_of_running left, ((Sound.reset m).after k).running left⟩
  · intro j le
    have later : (m.runWithin j).2.after (k - j) = (m.runWithin k).2 := by
      rw [runWithin_snd, runWithin_snd, ← after_add, Nat.add_sub_cancel' le]
    refine ⟨later, ?_⟩
    rw [← later]
    exact output_prefix_after (k - j) _

end Within

section Configurations

/-- A run that ends has not come back to a configuration, so it is no longer than there are any. -/
theorem runLength_le_haltingBound (ends : m.runLength ≠ ⊤) : m.runLength ≤ m.haltingBound := by
  obtain ⟨n, length⟩ := ENat.ne_top_iff_exists.mp ends
  rw [runLength_le_iff]
  by_contra going
  exact current?_ne_none_of_haltingBound going n (runLength_le_iff.mp length.ge)

/--
Positions in the program, pointers, contents of the tape and numbers of unread bytes make up the
configurations. A run without a budget ends exactly if a run whose budget is their number halts, and
a machine that has not halted after so many instructions never does.
-/
theorem ends_iff_halts_within_configurations (m : Machine) :
    let bound := m.program.size * m.tape.capacity * 256 ^ m.tape.capacity * (m.input.length + 1)
    ((∃ result, m.run none = some result) ↔ ∃ last, m.run (some bound) = some (.halted, last)) ∧
    ((∃ result, m.run none = some result) ↔ ∃ n, (m.reset.after n).halted = true) ∧
    ((∃ n, (m.reset.after n).halted = true) ↔ (m.reset.after bound).halted = true) := by
  intro bound
  have configurations : bound = m.haltingBound := by
    rw [haltingBound_eq, length]
    simp only [bound, program, Array.size_push]
  have covered : m.runLength ≠ ⊤ ↔ m.runLength ≤ bound := by
    rw [configurations]
    exact ⟨runLength_le_haltingBound, fun le => ne_top_of_le_ne_top (ENat.natCast_ne_top _) le⟩
  have ever : m.runLength ≠ ⊤ ↔ ∃ n, (m.reset.after n).halted = true := by
    constructor
    · intro ends
      exact ⟨bound, halted_after_reset_iff.mpr (covered.mp ends)⟩
    · rintro ⟨n, halted⟩
      exact ne_top_of_le_ne_top (ENat.natCast_ne_top n) (halted_after_reset_iff.mp halted)
  have within : (∃ last, m.run (some bound) = some (.halted, last)) ↔ m.runLength ≤ bound := by
    rw [← runWithin_eq_halted_iff, run]
    constructor
    · rintro ⟨last, ran⟩
      rw [Option.some.inj ran]
    · intro halted
      exact ⟨(m.runWithin bound).2, congrArg some (Prod.ext halted rfl)⟩
  rw [within, ← ever, halted_after_reset_iff, ← runLength_ne_top_iff]
  exact ⟨covered, Iff.rfl, covered⟩

end Configurations

end TapeMachine.Machine
