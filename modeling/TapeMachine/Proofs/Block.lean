import Mathlib.Data.List.Basic
import TapeMachine.Proofs.Machine.Contents

set_option autoImplicit false

namespace TapeMachine

/-- A sequence of plain instructions and loops. -/
inductive Block
  | done
  | plain (p : Plain) (rest : Block)
  | loop (body rest : Block)
  deriving DecidableEq

/-- No end without a start in front of it, and as many ends as starts. -/
def Balanced (ops : List Opcode) : Prop :=
  (∀ n ≤ ops.length, (ops.take n).count .loopEnd ≤ (ops.take n).count .loopStart) ∧
    ops.count .loopEnd = ops.count .loopStart

instance (ops : List Opcode) : Decidable (Balanced ops) :=
  inferInstanceAs (Decidable (_ ∧ _))

namespace Block

def code : Block → List Opcode
  | done => []
  | plain p rest => p.opcode :: rest.code
  | loop body rest => .loopStart :: (body.code ++ .loopEnd :: rest.code)

/-- Put an instruction in front of the first of several blocks that loop ends separate. -/
def read (op : Opcode) (blocks : List Block) : Option (List Block) :=
  match op, blocks with
  | .loopEnd, blocks => some (done :: blocks)
  | .loopStart, body :: rest :: outer => some (loop body rest :: outer)
  | op, b :: outer => op.plain?.map fun p => plain p b :: outer
  | _, [] => none

/-- The blocks that the loop ends without a start separate from each other. -/
def parts : List Opcode → Option (List Block)
  | [] => some [done]
  | op :: ops => (parts ops).bind (read op)

def parse (ops : List Opcode) : Option Block :=
  match parts ops with
  | some [b] => some b
  | _ => none

def codes : List Block → List Opcode
  | [] => []
  | [b] => b.code
  | b :: rest => b.code ++ .loopEnd :: codes rest

private theorem codes_cons (b : Block) {rest : List Block} (more : rest ≠ []) :
    codes (b :: rest) = b.code ++ .loopEnd :: codes rest := by
  rw [codes]
  exact more

private theorem codes_cons_prepend {b b' : Block} {ops : List Opcode} (h : b'.code = ops ++ b.code)
    (outer : List Block) : codes (b' :: outer) = ops ++ codes (b :: outer) := by
  cases outer with
  | nil => exact h
  | cons c outer => simp [codes, h]

private theorem codes_read {op : Opcode} {blocks result : List Block} (some_blocks : blocks ≠ [])
    (h : read op blocks = some result) : result ≠ [] ∧ codes result = op :: codes blocks := by
  unfold read at h
  split at h
  · obtain rfl := Option.some.inj h
    exact ⟨List.cons_ne_nil _ _, by rw [codes_cons done some_blocks]; rfl⟩
  · next body rest outer =>
    obtain rfl := Option.some.inj h
    refine ⟨List.cons_ne_nil _ _, ?_⟩
    have prepend :
        (loop body rest).code = (.loopStart :: (body.code ++ [.loopEnd])) ++ rest.code := by
      simp [code]
    rw [codes_cons_prepend prepend, codes_cons body (List.cons_ne_nil _ _)]
    simp
  · next b outer _ _ =>
    obtain ⟨p, kind, rfl⟩ := Option.map_eq_some_iff.mp h
    obtain rfl := Opcode.eq_opcode_of_plain? kind
    have prepend : (plain p b).code = [p.opcode] ++ b.code := rfl
    exact ⟨List.cons_ne_nil _ _, codes_cons_prepend prepend outer⟩
  · contradiction

private theorem codes_of_parts {ops : List Opcode} {blocks : List Block}
    (h : parts ops = some blocks) :
    blocks ≠ [] ∧ codes blocks = ops := by
  induction ops generalizing blocks with
  | nil =>
    obtain rfl := Option.some.inj h
    exact ⟨List.cons_ne_nil _ _, rfl⟩
  | cons op ops ih =>
    obtain ⟨rest, found, step⟩ := Option.bind_eq_some_iff.mp h
    obtain ⟨some_rest, same⟩ := ih found
    obtain ⟨some_blocks, prepended⟩ := codes_read some_rest step
    exact ⟨some_blocks, by rw [prepended, same]⟩

theorem code_of_parse {ops : List Opcode} {b : Block} (h : parse ops = some b) : b.code = ops := by
  unfold parse at h
  split at h
  · next single found =>
    obtain rfl := Option.some.inj h
    exact (codes_of_parts found).2
  · contradiction

private theorem exists_parts {ops : List Opcode} (plain : .halt ∉ ops)
    (enough : ∀ n ≤ ops.length, (ops.drop n).count .loopStart ≤ (ops.drop n).count .loopEnd) :
    ∃ blocks, parts ops = some blocks ∧
      blocks.length + ops.count .loopStart = ops.count .loopEnd + 1 := by
  -- Read from the last instruction on, a loop end begins one more part and a start joins two.
  induction ops with
  | nil => exact ⟨[done], rfl, rfl⟩
  | cons op ops ih =>
    have later (n : Nat) (le : n ≤ ops.length) :
        (ops.drop n).count .loopStart ≤ (ops.drop n).count .loopEnd := by
      simpa using enough (n + 1) (by simpa using le)
    obtain ⟨blocks, found, count⟩ := ih (fun stop => plain (List.mem_cons_of_mem op stop)) later
    have here := enough 0 (Nat.zero_le _)
    have rest := later 0 (Nat.zero_le _)
    rw [List.drop_zero] at here rest
    rw [parts, found, Option.bind_some]
    cases blocks with
    | nil =>
      rw [List.length_nil] at count
      omega
    | cons b outer =>
      cases kind : op.plain? with
      | some p =>
        obtain rfl := Opcode.eq_opcode_of_plain? kind
        refine ⟨Block.plain p b :: outer, ?_, ?_⟩
        · cases p <;> rfl
        · rw [List.count_cons_of_ne p.opcode_ne_loopStart,
            List.count_cons_of_ne p.opcode_ne_loopEnd]
          exact count
      | none =>
        cases op with
        | loopEnd =>
          refine ⟨done :: b :: outer, rfl, ?_⟩
          rw [List.count_cons_self, List.count_cons_of_ne (by decide), List.length_cons]
          omega
        | loopStart =>
          rw [List.count_cons_self, List.count_cons_of_ne (by decide)] at here
          cases outer with
          | nil =>
            rw [List.length_singleton] at count
            omega
          | cons after outer =>
            refine ⟨loop b after :: outer, rfl, ?_⟩
            rw [List.count_cons_self, List.count_cons_of_ne (by decide)]
            rw [List.length_cons, List.length_cons] at count
            rw [List.length_cons]
            omega
        | halt => exact absurd List.mem_cons_self plain
        | _ => contradiction

/-- Instructions that balance their brackets and do not stop are the code of a block. -/
theorem exists_parse {ops : List Opcode} (balanced : Balanced ops) (plain : .halt ∉ ops) :
    ∃ b, parse ops = some b := by
  obtain ⟨prefixes, total⟩ := balanced
  have enough (n : Nat) (le : n ≤ ops.length) :
      (ops.drop n).count .loopStart ≤ (ops.drop n).count .loopEnd := by
    have front := prefixes n le
    have starts : (ops.take n).count .loopStart + (ops.drop n).count .loopStart =
        ops.count .loopStart := by
      rw [← List.count_append, List.take_append_drop]
    have ends : (ops.take n).count .loopEnd + (ops.drop n).count .loopEnd =
        ops.count .loopEnd := by
      rw [← List.count_append, List.take_append_drop]
    omega
  obtain ⟨blocks, found, count⟩ := exists_parts plain enough
  obtain ⟨b, rfl⟩ : ∃ b, blocks = [b] := List.length_eq_one_iff.mp (by omega)
  exact ⟨b, by rw [parse, found]⟩

end Block

end TapeMachine
