import Mathlib.Data.Finset.Lattice.Fold
import Mathlib.Order.Lattice.Nat
import TapeMachine.Brackets

/-!
The loops of a program as one scan from left to right finds them: a loop end closes the nearest
loop start that is still open, and is left alone when none is. Main statements: what is open in
front of a position, which pairs the scan has made, and that the forward search of a running
machine finds the partner of a loop start.
-/

set_option autoImplicit false

namespace TapeMachine.Brackets

/-- What a scan from left to right has found in front of a position. -/
structure Matching where
  /-- The loop starts that are still open, the innermost first. -/
  opened : List Nat
  /-- The start and the end of every loop that has been closed. -/
  pairs : List (Nat × Nat)
  deriving DecidableEq

def Matching.note (i : Nat) (op : Opcode) (found : Matching) : Matching :=
  match op with
  | .loopStart => { found with opened := i :: found.opened }
  | .loopEnd =>
    match found.opened with
    | [] => found
    | start :: outer => ⟨outer, (start, i) :: found.pairs⟩
  | _ => found

/-- What the scan has found in front of position `i`. -/
def matchingBefore (code : Array Opcode) : Nat → Matching
  | 0 => ⟨[], []⟩
  | i + 1 =>
    match code[i]? with
    | some op => (matchingBefore code i).note i op
    | none => matchingBefore code i

/-- The loop starts in front of position `i` that are still open there, the innermost first. -/
def opened (code : Array Opcode) (i : Nat) : List Nat := (matchingBefore code i).opened

/-- The loops of a program, each as the positions of its start and its end. -/
def loops (code : Array Opcode) : List (Nat × Nat) := (matchingBefore code code.size).pairs

def startOf? (loops : List (Nat × Nat)) (stop : Nat) : Option Nat :=
  (loops.find? fun loop => loop.2 == stop).map Prod.fst

def stopOf? (loops : List (Nat × Nat)) (start : Nat) : Option Nat :=
  (loops.find? fun loop => loop.1 == start).map Prod.snd

/-- How many loops are open in front of position `i`. -/
def depth (code : Array Opcode) : Nat → Nat
  | 0 => 0
  | i + 1 =>
    match code[i]? with
    | some .loopStart => depth code i + 1
    | some .loopEnd => depth code i - 1
    | _ => depth code i

/-- How many loops are open at once where the program is nested most deeply. -/
def nesting (code : Array Opcode) : Nat := (Finset.range (code.size + 1)).sup (depth code)

section Opened

variable {code : Array Opcode} {i : Nat}

@[simp] theorem opened_zero : opened code 0 = [] := rfl

theorem opened_start (here : code[i]? = some .loopStart) :
    opened code (i + 1) = i :: opened code i := by
  simp [opened, matchingBefore, here, Matching.note]

theorem opened_end (here : code[i]? = some .loopEnd) :
    opened code (i + 1) = (opened code i).tail := by
  simp only [opened, matchingBefore, here, Matching.note]
  cases before : (matchingBefore code i).opened with
  | nil => simp [before]
  | cons start outer => rfl

theorem opened_other (start : code[i]? ≠ some .loopStart) (stop : code[i]? ≠ some .loopEnd) :
    opened code (i + 1) = opened code i := by
  simp only [opened, matchingBefore]
  cases here : code[i]? with
  | none => rfl
  | some op => cases op <;> simp_all [Matching.note]

private theorem length_opened : (opened code i).length = depth code i := by
  induction i with
  | zero => rfl
  | succ i ih =>
    by_cases start : code[i]? = some .loopStart
    · simp [opened_start start, depth, start, ih]
    · by_cases stop : code[i]? = some .loopEnd
      · simp [opened_end stop, depth, stop, ih]
      · rw [opened_other start stop, ih, depth]
        split <;> simp_all

theorem length_opened_le (inside : i ≤ code.size) : (opened code i).length ≤ nesting code := by
  rw [length_opened]
  exact Finset.le_sup (f := depth code) (Finset.mem_range.mpr (by omega))

theorem of_suffix_opened {start : Nat} {outer : List Nat} (h : start :: outer <:+ opened code i) :
    start < i ∧ code[start]? = some .loopStart ∧ opened code start = outer := by
  induction i with
  | zero => simp at h
  | succ i ih =>
    have earlier (inner : start :: outer <:+ opened code i) :
        start < i + 1 ∧ code[start]? = some .loopStart ∧ opened code start = outer := by
      obtain ⟨before, rest⟩ := ih inner
      exact ⟨by omega, rest⟩
    by_cases here : code[i]? = some .loopStart
    · rw [opened_start here, List.suffix_cons_iff] at h
      rcases h with same | inner
      · obtain ⟨rfl, rfl⟩ := List.cons.inj same
        exact ⟨Nat.lt_succ_self _, here, rfl⟩
      · exact earlier inner
    · by_cases stop : code[i]? = some .loopEnd
      · rw [opened_end stop] at h
        exact earlier (h.trans (List.tail_suffix _))
      · rw [opened_other here stop] at h
        exact earlier h

theorem of_opened_eq_cons {start : Nat} {outer : List Nat} (h : opened code i = start :: outer) :
    start < i ∧ code[start]? = some .loopStart ∧ opened code start = outer :=
  of_suffix_opened (h ▸ List.suffix_refl _)

theorem suffix_opened_of_le {start j : Nat} {outer : List Nat} (after : start < i) (le : i ≤ j)
    (h : start :: outer <:+ opened code j) : start :: outer <:+ opened code i := by
  induction j, le using Nat.le_induction with
  | base => exact h
  | succ j le ih =>
    apply ih
    by_cases here : code[j]? = some .loopStart
    · rw [opened_start here, List.suffix_cons_iff] at h
      rcases h with same | inner
      · obtain ⟨rfl, -⟩ := List.cons.inj same
        omega
      · exact inner
    · by_cases stop : code[j]? = some .loopEnd
      · rw [opened_end stop] at h
        exact h.trans (List.tail_suffix _)
      · rwa [opened_other here stop] at h

theorem opened_ne_of_closed {start stop j : Nat} {outer : List Nat}
    (here : code[stop]? = some .loopEnd) (closed : opened code stop = start :: outer)
    (later : stop < j) : opened code j ≠ start :: outer := by
  intro again
  have before := (of_opened_eq_cons closed).1
  have still : start :: outer <:+ opened code (stop + 1) :=
    suffix_opened_of_le (by omega) later (again ▸ List.suffix_refl _)
  rw [opened_end here, closed, List.tail_cons] at still
  have shorter := still.length_le
  rw [List.length_cons] at shorter
  omega

theorem opened_pairwise : (opened code i).Pairwise (fun a b => b < a) := by
  induction i using Nat.strong_induction_on with
  | _ i ih =>
    cases h : opened code i with
    | nil => exact List.Pairwise.nil
    | cons start outer =>
      obtain ⟨before, -, rest⟩ := of_opened_eq_cons h
      have inner := ih start before
      rw [rest] at inner
      refine List.pairwise_cons.mpr ⟨?_, inner⟩
      intro other member
      obtain ⟨front, back, split⟩ := List.append_of_mem member
      have within : other :: back <:+ opened code start := ⟨front, by rw [rest, split]⟩
      exact (of_suffix_opened within).1

end Opened

section Pairs

variable {code : Array Opcode}

theorem mem_pairs_iff {i start stop : Nat} :
    (start, stop) ∈ (matchingBefore code i).pairs ↔
      stop < i ∧ code[stop]? = some .loopEnd ∧ (opened code stop).head? = some start := by
  induction i with
  | zero => simp [matchingBefore]
  | succ i ih =>
    -- Only a loop end with something open in front of it adds a pair, and then its own.
    have step : (start, stop) ∈ (matchingBefore code (i + 1)).pairs ↔
        (start, stop) ∈ (matchingBefore code i).pairs ∨
          stop = i ∧ code[i]? = some .loopEnd ∧ (opened code i).head? = some start := by
      simp only [matchingBefore, opened]
      cases here : code[i]? with
      | none => simp
      | some op =>
        cases op <;> simp [Matching.note]
        cases (matchingBefore code i).opened <;> simp
        grind
    rw [step, ih]
    constructor
    · rintro (⟨before, rest⟩ | ⟨rfl, rest⟩)
      · exact ⟨by omega, rest⟩
      · exact ⟨by omega, rest⟩
    · rintro ⟨before, rest⟩
      by_cases last : stop = i
      · subst last
        exact .inr ⟨rfl, rest⟩
      · exact .inl ⟨by omega, rest⟩

theorem mem_loops_iff {start stop : Nat} :
    (start, stop) ∈ loops code ↔
      code[stop]? = some .loopEnd ∧ (opened code stop).head? = some start := by
  rw [loops, mem_pairs_iff]
  constructor
  · exact And.right
  · intro found
    exact ⟨(Array.getElem?_eq_some_iff.mp found.1).1, found⟩

end Pairs

section Closing

variable {code : Array Opcode} {i d : Nat}

theorem closing?_start (here : code[i]? = some .loopStart) :
    closing? code i d = closing? code (i + 1) (d + 1) := by
  obtain ⟨inside, here⟩ := Array.getElem?_eq_some_iff.mp here
  rw [closing?.eq_def code i, dif_pos inside, here]

theorem closing?_end_zero (here : code[i]? = some .loopEnd) : closing? code i 0 = some i := by
  obtain ⟨inside, here⟩ := Array.getElem?_eq_some_iff.mp here
  rw [closing?.eq_def code i, dif_pos inside, here]

theorem closing?_end_succ (here : code[i]? = some .loopEnd) :
    closing? code i (d + 1) = closing? code (i + 1) d := by
  obtain ⟨inside, here⟩ := Array.getElem?_eq_some_iff.mp here
  rw [closing?.eq_def code i, dif_pos inside, here]

theorem closing?_other (inside : i < code.size) (start : code[i]? ≠ some .loopStart)
    (stop : code[i]? ≠ some .loopEnd) : closing? code i d = closing? code (i + 1) d := by
  rw [closing?.eq_def code i, dif_pos inside]
  rw [Array.getElem?_eq_getElem inside] at start stop
  cases here : code[i] <;> simp_all

theorem closing?_outside (outside : code.size ≤ i) : closing? code i d = none := by
  rw [closing?.eq_def code i, dif_neg (by omega)]

private theorem closing?_next {start : Nat} {inner outer : List Nat}
    (before : opened code i = inner ++ start :: outer) (inside : i < code.size)
    (within : code[i]? = some .loopEnd → inner ≠ []) :
    ∃ inner', opened code (i + 1) = inner' ++ start :: outer ∧
      closing? code i inner.length = closing? code (i + 1) inner'.length := by
  by_cases here : code[i]? = some .loopStart
  · refine ⟨i :: inner, ?_, closing?_start here⟩
    rw [opened_start here, before, List.cons_append]
  · by_cases ends : code[i]? = some .loopEnd
    · obtain ⟨last, inner, rfl⟩ := List.exists_cons_of_ne_nil (within ends)
      refine ⟨inner, ?_, closing?_end_succ ends⟩
      rw [opened_end ends, before, List.cons_append, List.tail_cons]
    · refine ⟨inner, ?_, closing?_other inside here ends⟩
      rw [opened_other here ends, before]

theorem of_closing?_eq_some {stop start : Nat} {inner outer : List Nat}
    (before : opened code i = inner ++ start :: outer)
    (found : closing? code i inner.length = some stop) :
    i ≤ stop ∧ code[stop]? = some .loopEnd ∧ opened code stop = start :: outer := by
  -- What the search counts are the loops that were opened inside the one it is looking for.
  induction left : code.size - i generalizing i inner with
  | zero => simp [closing?_outside (show code.size ≤ i by omega)] at found
  | succ left ih =>
    by_cases last : code[i]? = some .loopEnd ∧ inner = []
    · obtain ⟨ends, rfl⟩ := last
      rw [List.length_nil, closing?_end_zero ends, Option.some.injEq] at found
      subst found
      exact ⟨le_rfl, ends, before⟩
    · obtain ⟨inner', next, same⟩ :=
        closing?_next before (by omega) (fun ends none => last ⟨ends, none⟩)
      obtain ⟨le, rest⟩ := ih next (same ▸ found) (by omega)
      exact ⟨by omega, rest⟩

theorem suffix_opened_of_closing?_eq_none {j start : Nat} {inner outer : List Nat}
    (before : opened code i = inner ++ start :: outer)
    (missing : closing? code i inner.length = none) (le : i ≤ j) (inside : j ≤ code.size) :
    start :: outer <:+ opened code j := by
  induction gap : j - i generalizing i inner with
  | zero =>
    obtain rfl : i = j := by omega
    exact ⟨inner, before.symm⟩
  | succ gap ih =>
    have within (ends : code[i]? = some .loopEnd) : inner ≠ [] := by
      rintro rfl
      rw [List.length_nil, closing?_end_zero ends] at missing
      contradiction
    obtain ⟨inner', next, same⟩ := closing?_next before (by omega) within
    exact ih next (same ▸ missing) (by omega) (by omega)

/-- The forward search from a loop start finds the end that the scan pairs with it. -/
theorem mem_loops_iff_closing? {start stop : Nat} (here : code[start]? = some .loopStart) :
    (start, stop) ∈ loops code ↔ closing? code (start + 1) 0 = some stop := by
  have before : opened code (start + 1) = [] ++ start :: opened code start := opened_start here
  constructor
  · intro paired
    obtain ⟨ends, head⟩ := mem_loops_iff.mp paired
    obtain ⟨outer, closed⟩ := List.head?_eq_some_iff.mp head
    obtain ⟨earlier, -, rfl⟩ := of_opened_eq_cons closed
    have inside : stop < code.size := (Array.getElem?_eq_some_iff.mp ends).1
    cases found : closing? code (start + 1) 0 with
    | none =>
      have still := suffix_opened_of_closing?_eq_none (j := stop + 1) before found
        (by omega) (by omega)
      rw [opened_end ends, closed, List.tail_cons] at still
      have shorter := still.length_le
      rw [List.length_cons] at shorter
      omega
    | some other =>
      obtain ⟨-, ends', closed'⟩ := of_closing?_eq_some before found
      rcases Nat.lt_trichotomy stop other with less | same | more
      · exact absurd closed' (opened_ne_of_closed ends closed less)
      · rw [same]
      · exact absurd closed (opened_ne_of_closed ends' closed' more)
  · intro found
    obtain ⟨-, ends, closed⟩ := of_closing?_eq_some before found
    exact mem_loops_iff.mpr ⟨ends, by rw [closed, List.head?_cons]⟩

theorem closing?_of_mem_loops {start stop : Nat} (paired : (start, stop) ∈ loops code) :
    closing? code (start + 1) 0 = some stop := by
  obtain ⟨outer, closed⟩ := List.head?_eq_some_iff.mp (mem_loops_iff.mp paired).2
  exact (mem_loops_iff_closing? (of_opened_eq_cons closed).2.1).mp paired

end Closing

section Partners

variable {code : Array Opcode} {start stop : Nat}

private theorem find?_map_eq_some_iff {key value : Nat × Nat → Nat} {table : List (Nat × Nat)}
    (decided : ∀ a ∈ table, ∀ b ∈ table, key a = key b → value a = value b) {k v : Nat} :
    (table.find? fun entry => key entry == k).map value = some v ↔
      ∃ entry ∈ table, key entry = k ∧ value entry = v := by
  rw [Option.map_eq_some_iff]
  constructor
  · rintro ⟨entry, search, same⟩
    have matching := List.find?_some search
    exact ⟨entry, List.mem_of_find?_eq_some search, beq_iff_eq.mp matching, same⟩
  · rintro ⟨entry, member, matching, same⟩
    cases search : table.find? fun entry => key entry == k with
    | none => simpa [matching] using List.find?_eq_none.mp search entry member
    | some found =>
      have matchingToo := List.find?_some search
      refine ⟨found, rfl, ?_⟩
      rw [← same]
      exact decided found (List.mem_of_find?_eq_some search) entry member
        ((beq_iff_eq.mp matchingToo).trans matching.symm)

theorem startOf?_eq_some_iff :
    startOf? (loops code) stop = some start ↔ (start, stop) ∈ loops code := by
  rw [startOf?, find?_map_eq_some_iff]
  · constructor
    · rintro ⟨entry, member, rfl, rfl⟩
      exact member
    · intro member
      exact ⟨_, member, rfl, rfl⟩
  · rintro ⟨a, e⟩ first ⟨b, e'⟩ second rfl
    exact Option.some.inj ((mem_loops_iff.mp first).2.symm.trans (mem_loops_iff.mp second).2)

theorem startOf?_eq_head? (here : code[stop]? = some .loopEnd) :
    startOf? (loops code) stop = (opened code stop).head? := by
  ext start
  rw [startOf?_eq_some_iff, mem_loops_iff]
  exact and_iff_right here

theorem stopOf?_eq_some_iff :
    stopOf? (loops code) start = some stop ↔ (start, stop) ∈ loops code := by
  rw [stopOf?, find?_map_eq_some_iff]
  · constructor
    · rintro ⟨entry, member, rfl, rfl⟩
      exact member
    · intro member
      exact ⟨_, member, rfl, rfl⟩
  · rintro ⟨s, a⟩ first ⟨s', b⟩ second rfl
    exact Option.some.inj ((closing?_of_mem_loops first).symm.trans (closing?_of_mem_loops second))

theorem stopOf?_eq_closing? (here : code[start]? = some .loopStart) :
    stopOf? (loops code) start = closing? code (start + 1) 0 := by
  ext stop
  rw [stopOf?_eq_some_iff, mem_loops_iff_closing? here]

end Partners

end TapeMachine.Brackets
