import TapeMachine.Proofs.Block
import TapeMachine.Proofs.Brackets.Matching

set_option autoImplicit false

namespace TapeMachine.Brackets

/-- At `e` stands a loop end, and from `i` up to it the brackets are balanced. -/
def Closes (program : Array Opcode) (i e : Nat) : Prop :=
  i ≤ e ∧ program[e]? = some .loopEnd ∧ Balanced (program.extract i e).toList

instance (program : Array Opcode) (i e : Nat) : Decidable (Closes program i e) :=
  inferInstanceAs (Decidable (_ ∧ _ ∧ _))

/--
Every end has a start in front of it, except for the ends of `d` loops that are open before, and
nothing is open behind the last instruction.
-/
def Settles (d : Nat) (ops : List Opcode) : Prop :=
  (∀ n ≤ ops.length, (ops.take n).count .loopEnd ≤ (ops.take n).count .loopStart + d) ∧
    ops.count .loopEnd = ops.count .loopStart + d

section Settling

variable {d : Nat} {op : Opcode} {ops : List Opcode}

private theorem settles_nil : Settles d [] ↔ d = 0 := by
  simp [Settles, eq_comm]

private theorem settles_cons :
    Settles d (op :: ops) ↔
      (∀ n ≤ ops.length, (op :: ops.take n).count .loopEnd ≤
        (op :: ops.take n).count .loopStart + d) ∧
      (op :: ops).count .loopEnd = (op :: ops).count .loopStart + d := by
  refine and_congr_left fun _ => ?_
  constructor
  · intro fronts n le
    exact fronts (n + 1) (Nat.succ_le_succ le)
  · intro fronts n le
    cases n with
    | zero => exact Nat.zero_le _
    | succ n => exact fronts n (Nat.le_of_succ_le_succ le)

private theorem settles_start : Settles d (.loopStart :: ops) ↔ Settles (d + 1) ops := by
  have other : Opcode.loopStart ≠ .loopEnd := by decide
  rw [settles_cons, Settles]
  simp only [List.count_cons_self, List.count_cons_of_ne other]
  refine and_congr (forall₂_congr fun n _ => ?_) ?_ <;> omega

private theorem settles_end : Settles (d + 1) (.loopEnd :: ops) ↔ Settles d ops := by
  have other : Opcode.loopEnd ≠ .loopStart := by decide
  rw [settles_cons, Settles]
  simp only [List.count_cons_self, List.count_cons_of_ne other]
  refine and_congr (forall₂_congr fun n _ => ?_) ?_ <;> omega

private theorem not_settles_end : ¬ Settles 0 (.loopEnd :: ops) := by
  rintro ⟨fronts, -⟩
  have first := fronts 1 (Nat.succ_le_succ (Nat.zero_le _))
  simp at first

private theorem settles_other (start : op ≠ .loopStart) (stop : op ≠ .loopEnd) :
    Settles d (op :: ops) ↔ Settles d ops := by
  rw [settles_cons, Settles]
  simp only [List.count_cons_of_ne start, List.count_cons_of_ne stop]

end Settling

section Search

variable {code : Array Opcode} {i d d' e : Nat} {op : Opcode}

private theorem toList_extract_of_lt (here : code[i]? = some op) (before : i < e) :
    (code.extract i e).toList = op :: (code.extract (i + 1) e).toList := by
  obtain ⟨inside, rfl⟩ := Array.getElem?_eq_some_iff.mp here
  have within : i < (code.toList.take e).length := by
    rw [List.length_take, Array.length_toList]
    omega
  rw [Array.toList_extract, Array.toList_extract, List.extract_eq_drop_take',
    List.extract_eq_drop_take', List.drop_eq_getElem_cons within, List.getElem_take,
    Array.getElem_toList]

private theorem settled_stretch_iff (here : code[i]? = some op) (passed : op = .loopEnd → d ≠ 0)
    (counted : ∀ ops, Settles d (op :: ops) ↔ Settles d' ops) :
    (i + 1 ≤ e ∧ code[e]? = some .loopEnd ∧ Settles d' (code.extract (i + 1) e).toList) ↔
      (i ≤ e ∧ code[e]? = some .loopEnd ∧ Settles d (code.extract i e).toList) := by
  constructor
  · rintro ⟨before, ends, settled⟩
    refine ⟨Nat.le_of_succ_le before, ends, ?_⟩
    rwa [toList_extract_of_lt here before, counted]
  · rintro ⟨le, ends, settled⟩
    rcases Nat.eq_or_lt_of_le le with rfl | before
    · have empty : (code.extract i i).toList = [] := by simp
      rw [empty, settles_nil] at settled
      exact absurd settled (passed (Option.some.inj (here.symm.trans ends)))
    · rw [toList_extract_of_lt here before, counted] at settled
      exact ⟨before, ends, settled⟩

/-- The forward search finds the loop end in front of which all loops counted as open are closed. -/
theorem closing?_eq_some_iff :
    closing? code i d = some e ↔
      i ≤ e ∧ code[e]? = some .loopEnd ∧ Settles d (code.extract i e).toList := by
  -- The search is followed through the code that is left, whatever number of loops it has counted.
  induction left : code.size - i generalizing i d with
  | zero =>
    rw [closing?_outside (by omega)]
    refine iff_of_false (by simp) ?_
    rintro ⟨le, ends, -⟩
    have inside := (Array.getElem?_eq_some_iff.mp ends).1
    omega
  | succ left ih =>
    have inside : i < code.size := by omega
    by_cases start : code[i]? = some .loopStart
    · rw [closing?_start start, ih (by omega)]
      exact settled_stretch_iff start (fun stop => absurd stop (by decide)) fun _ => settles_start
    · by_cases ends : code[i]? = some .loopEnd
      · cases d with
        | zero =>
          -- The search ends here, and no stretch that goes on from here begins with a loop end.
          rw [closing?_end_zero ends, Option.some.injEq]
          constructor
          · rintro rfl
            exact ⟨le_rfl, ends, by simp [settles_nil]⟩
          · rintro ⟨le, -, settled⟩
            rcases Nat.eq_or_lt_of_le le with same | before
            · exact same
            · rw [toList_extract_of_lt ends before] at settled
              exact absurd settled not_settles_end
        | succ d =>
          rw [closing?_end_succ ends, ih (by omega)]
          exact settled_stretch_iff ends (fun _ => Nat.succ_ne_zero d) fun _ => settles_end
      · obtain ⟨op, here⟩ : ∃ op, code[i]? = some op := ⟨_, Array.getElem?_eq_getElem inside⟩
        have noStart : op ≠ .loopStart := by
          rintro rfl
          exact start here
        have noEnd : op ≠ .loopEnd := by
          rintro rfl
          exact ends here
        rw [closing?_other inside start ends, ih (by omega)]
        exact settled_stretch_iff here (fun stop => absurd stop noEnd)
          fun _ => settles_other noStart noEnd

theorem closing?_eq_some_iff_closes : closing? code i 0 = some e ↔ Closes code i e :=
  closing?_eq_some_iff

theorem Closes.unique {e' : Nat} (first : Closes code i e) (second : Closes code i e') :
    e' = e := by
  have found := closing?_eq_some_iff_closes.mpr first
  have foundToo := closing?_eq_some_iff_closes.mpr second
  exact Option.some.inj (foundToo.symm.trans found)

theorem closes_iff_mem_loops (here : code[i]? = some .loopStart) :
    Closes code (i + 1) e ↔ (i, e) ∈ loops code := by
  rw [mem_loops_iff_closing? here, closing?_eq_some_iff_closes]

theorem closes_push_iff (other : op ≠ .loopEnd) : Closes (code.push op) i e ↔ Closes code i e := by
  refine and_congr_right fun _ => ?_
  have same : (code.push op)[e]? = some .loopEnd ↔ code[e]? = some .loopEnd := by
    rw [Array.getElem?_push]
    split
    · next last =>
      rw [last, Array.getElem?_eq_none le_rfl]
      simp [other]
    · rfl
  rw [same]
  refine and_congr_right fun ends => ?_
  have inside := (Array.getElem?_eq_some_iff.mp ends).1
  rw [Array.extract_push_of_le inside.le]

end Search

end TapeMachine.Brackets
