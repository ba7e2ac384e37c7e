import TapeMachine.Proofs.Compile
import TapeMachine.Proofs.Text.Utf8.WellFormed

set_option autoImplicit false

namespace TapeMachine

namespace Opcode

/-- The code of the instruction that a code point stands for. -/
def codeOfPoint (n : Nat) : UInt8 := (ofChar (Char.ofNat n)).code

private theorem code_le_of_ne_halt {op : Opcode} (going : op ≠ .halt) : op.code ≤ 8 := by
  cases op with
  | halt => contradiction
  | _ => decide

private theorem code_eq_zero_iff {op : Opcode} : op.code = 0 ↔ op = .nop := by
  cases op <;> decide

private theorem codeOfPoint_ne_zero_iff {n : Nat} : codeOfPoint n ≠ 0 ↔ Char.ofNat n ∈ symbols := by
  rw [codeOfPoint, Ne, code_eq_zero_iff, ← ofChar_ne_nop_iff]

private theorem lt_of_ofNat_mem_symbols {n : Nat} (symbol : Char.ofNat n ∈ symbols) : n < 0x80 := by
  have all : symbols.all (·.toNat < 0x80) = true := by decide
  have small := of_decide_eq_true (List.all_eq_true.mp all (Char.ofNat n) symbol)
  by_cases valid : n.isValidChar
  · have number : (Char.ofNat n).toNat = n := by
      rw [Char.ofNat, dif_pos valid]
      rfl
    rw [number] at small
    exact small
  · rw [Char.ofNat, dif_neg valid] at symbol
    exact absurd symbol (by decide)

end Opcode

namespace Compile

open Text.Utf8

variable {content code : List UInt8} {points : List Nat}

theorem bytes_eq_ok_iff :
    bytes content = .ok code ↔ ∃ text, decode content = .ok text ∧ source text = code := by
  rw [bytes]
  cases decode content with
  | error fault =>
    constructor
    · intro same
      contradiction
    · rintro ⟨_, same, _⟩
      contradiction
  | ok text =>
    constructor
    · intro same
      exact ⟨text, rfl, Except.ok.inj same⟩
    · rintro ⟨_, found, same⟩
      obtain rfl := Except.ok.inj found
      exact congrArg Except.ok same

private theorem source_map_ofNat (points : List Nat) :
    source (points.map Char.ofNat) = points.map Opcode.codeOfPoint := by
  simp [source, Opcode.encode, Opcode.ofSource, Opcode.codeOfPoint, Function.comp_def]

private theorem eq_map_codeOfPoint (compiled : bytes content = .ok code)
    (spelled : Spelled points content) : code = points.map Opcode.codeOfPoint := by
  obtain ⟨text, read, rfl⟩ := bytes_eq_ok_iff.mp compiled
  obtain rfl := Except.ok.inj (spelled.decode_eq.symm.trans read)
  exact source_map_ofNat points

private theorem filter_symbols_of_spelled (spelled : Spelled points content) :
    points.filter (Char.ofNat · ∈ Opcode.symbols) =
      (content.filter (Char.ofNat ·.toNat ∈ Opcode.symbols)).map UInt8.toNat := by
  have few (n : Nat) : (decide (Char.ofNat n ∈ Opcode.symbols) && decide (n < 0x80)) =
      decide (Char.ofNat n ∈ Opcode.symbols) := by
    rw [Bool.and_eq_left_iff_imp, decide_eq_true_iff, decide_eq_true_iff]
    exact Opcode.lt_of_ofNat_mem_symbols
  calc points.filter (Char.ofNat · ∈ Opcode.symbols)
      = (points.filter (· < 0x80)).filter (Char.ofNat · ∈ Opcode.symbols) := by
        simp only [List.filter_filter, few]
    _ = ((content.filter (·.toNat < 0x80)).map UInt8.toNat).filter
          (Char.ofNat · ∈ Opcode.symbols) := by rw [spelled.map_filter_lt]
    _ = (content.filter (Char.ofNat ·.toNat ∈ Opcode.symbols)).map UInt8.toNat := by
        simp only [List.filter_map, List.filter_filter, Function.comp_def, few]

/--
Bytes are compiled exactly if they are well-formed. Then there is one byte of code for each byte
that begins a code point, it is the instruction of that code point, none of them stops the machine,
and those that do something are the instructions of the bytes that are symbols, in the same order.
-/
theorem bytes_by_code_point (content : List UInt8) :
    ((∃ code, bytes content = .ok code) ↔ WellFormed content) ∧
    ∀ code, bytes content = .ok code →
      code.length = content.countP (¬ Continues ·) ∧
      (∀ points, Spelled points content →
        ∀ i : Nat, code[i]? = points[i]?.map Opcode.codeOfPoint) ∧
      (∀ b ∈ code, b ≤ 8) ∧
      code.filter (· ≠ 0) = (content.filter (Char.ofNat ·.toNat ∈ Opcode.symbols)).map
        fun b => Opcode.codeOfPoint b.toNat := by
  constructor
  · rw [wellFormed_iff]
    constructor
    · rintro ⟨code, compiled⟩
      obtain ⟨text, read, -⟩ := bytes_eq_ok_iff.mp compiled
      exact ⟨text, read⟩
    · rintro ⟨text, read⟩
      exact ⟨_, bytes_eq_ok_iff.mpr ⟨text, read, rfl⟩⟩
  · intro code compiled
    obtain ⟨text, read, -⟩ := bytes_eq_ok_iff.mp compiled
    have spelled : Spelled (text.map Char.toNat) content := decode_eq_ok_iff_spelled.mp read
    have each := eq_map_codeOfPoint compiled spelled
    refine ⟨?_, ?_, ?_, ?_⟩
    · rw [spelled.countP_not_continues, each, List.length_map]
    · intro points spelled' i
      rw [eq_map_codeOfPoint compiled spelled', List.getElem?_map]
    · intro b among
      rw [each] at among
      obtain ⟨n, -, rfl⟩ := List.mem_map.mp among
      exact Opcode.code_le_of_ne_halt (Opcode.ofChar_ne_halt _)
    · have working (n : Nat) : decide (Opcode.codeOfPoint n ≠ 0) =
          decide (Char.ofNat n ∈ Opcode.symbols) :=
        decide_eq_decide.mpr Opcode.codeOfPoint_ne_zero_iff
      rw [each, List.filter_map]
      simp only [Function.comp_def, working]
      rw [filter_symbols_of_spelled spelled, List.map_map]
      rfl

theorem bytes_by_code_point_long_sequence :
    let content := [0x2B, 0xC4, 0xAB, 0x5D]
    bytes content = .ok [1, 0, 8] ∧ WellFormed content ∧
      content.countP (¬ Continues ·) = 3 ∧
      (content.filter (Char.ofNat ·.toNat ∈ Opcode.symbols)).map
        (fun b => Opcode.codeOfPoint b.toNat) = [1, 8] := by
  intro content
  have compiled : bytes content = .ok [1, 0, 8] := by decide +kernel
  obtain ⟨accepted, each⟩ := bytes_by_code_point content
  obtain ⟨length, -, -, working⟩ := each [1, 0, 8] compiled
  exact ⟨compiled, accepted.mp ⟨_, compiled⟩, length.symm, working.symm⟩

/-- A bracket in a longer form than its own is refused. -/
example : bytes [0xC1, 0x9D] = .error ⟨0, 0xC1, 1, .badStart⟩ := by
  decide +kernel

end Compile

end TapeMachine
