import TapeMachine.Listing
import TapeMachine.Proofs.Text.Fields

set_option autoImplicit false

namespace TapeMachine.Listing

/-- The byte that a line tells, if the line is one of a byte with the given index. -/
def byteOf? (index : Nat) (text : List Char) : Option UInt8 :=
  match text.splitOn ' ' with
  | _ :: _ :: digits :: _ =>
    let byte := UInt8.ofNat (Numeral.value 16 digits)
    if text = (line index byte).toList then some byte else none
  | _ => none

/-- The bytes that lines tell, the first of which has the given index. -/
def bytesFrom? : (index : Nat) → List (List Char) → Option (List UInt8)
  | _, [] => some []
  | index, text :: rest =>
    match byteOf? index text, bytesFrom? (index + 1) rest with
    | some byte, some bytes => some (byte :: bytes)
    | _, _ => none

/-- The binary program that a text is the listing of. -/
def read (text : String) : Option (List UInt8) :=
  if text = "" then some [] else bytesFrom? 0 (text.toList.splitOn '\n')

variable {index : Nat} {byte : UInt8} {code : List UInt8}

section Line

private theorem toList_line (index : Nat) (byte : UInt8) : (line index byte).toList =
    Text.decimal index ++ ' ' :: (['-'] ++ ' ' :: ((Text.upperHex 2 byte.toNat).toList ++
      ' ' :: (['-'] ++ ' ' :: (Opcode.ofByte byte).mnemonic.toList))) := by
  simp only [line, String.toList_append, Text.toList_toString, List.append_assoc]
  rfl

private theorem dash_mem_line (index : Nat) (byte : UInt8) : '-' ∈ (line index byte).toList := by
  simp [toList_line]

private theorem break_notMem_line (index : Nat) (byte : UInt8) :
    '\n' ∉ (line index byte).toList := by
  have digits : '\n' ∉ Text.decimal index := Text.notMem_decimal rfl index
  have value : '\n' ∉ (Text.upperHex 2 byte.toNat).toList :=
    Text.notMem_upperHex (by decide) 2 byte.toNat
  have mnemonic (op : Opcode) : '\n' ∉ op.mnemonic.toList := by
    cases op <;> decide
  simp [toList_line, digits, value, mnemonic]

private theorem splitOn_line (index : Nat) (byte : UInt8) :
    ∃ rest, (line index byte).toList.splitOn ' ' =
    Text.decimal index :: ['-'] :: (Text.upperHex 2 byte.toNat).toList :: rest := by
  have digits : ' ' ∉ Text.decimal index := Text.notMem_decimal rfl index
  have value : ' ' ∉ (Text.upperHex 2 byte.toNat).toList :=
    Text.notMem_upperHex (by decide) 2 byte.toNat
  have dash : ' ' ∉ ['-'] := by decide
  rw [toList_line, List.splitOn_append_cons_self_of_not_mem digits,
    List.splitOn_append_cons_self_of_not_mem dash, List.splitOn_append_cons_self_of_not_mem value]
  exact ⟨_, rfl⟩

private theorem byteOf?_eq_some_iff {text : List Char} :
    byteOf? index text = some byte ↔ text = (line index byte).toList := by
  constructor
  · intro told
    rw [byteOf?] at told
    split at told
    · obtain ⟨same, found⟩ := Option.ite_none_right_eq_some.mp told
      rw [← Option.some.inj found]
      exact same
    · contradiction
  · rintro rfl
    obtain ⟨rest, parts⟩ := splitOn_line index byte
    have back : UInt8.ofNat byte.toNat = byte := UInt8.ofNat_toNat
    rw [byteOf?, parts]
    simp only [Text.value_upperHex_toNat, back, if_true]

end Line

section Lines

private theorem bytesFrom?_eq_some_iff {lines : List (List Char)} :
    bytesFrom? index lines = some code ↔ lines = (linesFrom index code).map String.toList := by
  induction lines generalizing index code with
  | nil => cases code <;> simp [bytesFrom?, linesFrom]
  | cons text lines ih =>
    constructor
    · intro told
      rw [bytesFrom?] at told
      split at told
      · next byte bytes first rest =>
        obtain rfl := Option.some.inj told
        rw [byteOf?_eq_some_iff.mp first, ih.mp rest]
        rfl
      · contradiction
    · intro same
      cases code with
      | nil => contradiction
      | cons byte bytes =>
        obtain ⟨first, rest⟩ := List.cons.inj same
        rw [bytesFrom?, byteOf?_eq_some_iff.mpr first, ih.mpr rest]

private theorem toList_render (code : List UInt8) :
    (render code).toList = ['\n'].intercalate ((linesFrom 0 code).map String.toList) := by
  rw [render, String.toList_intercalate]
  rfl

private theorem linesFrom_eq_mapIdx (index : Nat) (code : List UInt8) :
    linesFrom index code = code.mapIdx fun i => line (index + i) :=
  Text.eq_mapIdx_of_cons (fun _ => rfl) (fun _ _ _ => rfl) index code

private theorem exists_of_mem_linesFrom {text : String} (among : text ∈ linesFrom index code) :
    ∃ i b, text = line i b := by
  rw [linesFrom_eq_mapIdx] at among
  obtain ⟨i, inside, rfl⟩ := List.mem_mapIdx.mp among
  exact ⟨index + i, code[i], rfl⟩

theorem splitOn_render (filled : code ≠ []) :
    (render code).toList.splitOn '\n' = (linesFrom 0 code).map String.toList := by
  have lines : (linesFrom 0 code).map String.toList ≠ [] := by
    rw [← List.length_pos_iff, List.length_map, length_linesFrom]
    exact List.length_pos_iff.mpr filled
  rw [toList_render]
  refine List.splitOn_intercalate '\n' ?_ lines
  intro chars among
  obtain ⟨text, listed, rfl⟩ := List.mem_map.mp among
  obtain ⟨i, b, rfl⟩ := exists_of_mem_linesFrom listed
  exact break_notMem_line i b

private theorem getElem?_splitOn_render {i : Nat} (here : code[i]? = some byte) :
    ((render code).toList.splitOn '\n')[i]? = some (line i byte).toList := by
  have filled : code ≠ [] := by
    rintro rfl
    contradiction
  rw [splitOn_render filled, List.getElem?_map, linesFrom_eq_mapIdx, List.getElem?_mapIdx, here,
    Nat.zero_add, Option.map_some, Option.map_some]

private theorem render_ne_empty (filled : code ≠ []) : render code ≠ "" := by
  intro empty
  have lines := splitOn_render filled
  have single : "".toList.splitOn '\n' = [[]] := rfl
  obtain ⟨byte, rest, rfl⟩ := List.exists_cons_of_ne_nil filled
  have dash := dash_mem_line 0 byte
  rw [empty, single] at lines
  rw [← (List.cons.inj lines).1] at dash
  contradiction

end Lines

theorem read_eq_some_iff {text : String} : read text = some code ↔ text = render code := by
  rw [read]
  split
  · next empty =>
    subst empty
    constructor
    · intro told
      obtain rfl := Option.some.inj told
      rfl
    · intro same
      by_contra other
      have filled : code ≠ [] := fun nothing => other (congrArg some nothing.symm)
      exact render_ne_empty filled same.symm
  · next filled =>
    rw [bytesFrom?_eq_some_iff]
    constructor
    · intro lines
      rw [← String.toList_inj, toList_render, ← lines, List.intercalate_splitOn]
    · rintro rfl
      refine splitOn_render ?_
      rintro rfl
      exact filled rfl

/--
A text is read as a binary program exactly if it is the listing of that program; so programs are
told apart by their listings. The listing of a program that is not empty has one line for each byte
and no break behind the last one. A line gives its index in decimal digits, the byte in two
hexadecimal digits, from which it is read back, and the instruction that the byte stands for. A byte
that is the code of no instruction goes by the name of the instruction that does nothing.
-/
theorem listing_lossless :
    (∀ text code, read text = some code ↔ text = render code) ∧
    (∀ code code', render code = render code' → code = code') ∧
    ∀ code : List UInt8, code ≠ [] →
      let text := (render code).toList
      (text.splitOn '\n').length = code.length ∧ text.getLast? ≠ some '\n' ∧
      ∀ (i : Nat) (b : UInt8), code[i]? = some b → ∃ digits : String,
        digits.length = 2 ∧ Numeral.value 16 digits.toList = b.toNat ∧
        (text.splitOn '\n')[i]? = some
          (toString i ++ " - " ++ digits ++ " - " ++ (Opcode.ofByte b).mnemonic).toList ∧
        (Opcode.ofCode? b.toNat = none → (Opcode.ofByte b).mnemonic = "NOP") := by
  refine ⟨fun _ _ => read_eq_some_iff, ?_, ?_⟩
  · intro code code' same
    have told : read (render code') = some code := read_eq_some_iff.mpr same.symm
    rw [read_eq_some_iff.mpr rfl] at told
    exact (Option.some.inj told).symm
  · intro code filled text
    have lines : text.splitOn '\n' = (linesFrom 0 code).map String.toList := splitOn_render filled
    refine ⟨?_, ?_, ?_⟩
    · rw [lines, List.length_map, length_linesFrom]
    · intro ends
      obtain ⟨front, same⟩ := List.getLast?_eq_some_iff.mp ends
      -- Behind a break at the end there would be a line with nothing in it.
      have empty : [] ∈ (linesFrom 0 code).map String.toList := by
        rw [← lines, same, List.splitOn_append_cons_self]
        exact List.mem_append_right _ List.mem_cons_self
      obtain ⟨text, among, nothing⟩ := List.mem_map.mp empty
      obtain ⟨i, b, rfl⟩ := exists_of_mem_linesFrom among
      have dash := dash_mem_line i b
      rw [nothing] at dash
      contradiction
    · intro i b here
      refine ⟨Text.upperHex 2 b.toNat, Text.length_upperHex 2 _, Text.value_upperHex_toNat b, ?_,
        ?_⟩
      · exact getElem?_splitOn_render here
      · intro unknown
        rw [Opcode.ofByte, Opcode.ofCode, unknown]
        rfl

theorem listing_lossless_unknown_byte :
    let code : List UInt8 := [1, 0, 255, 2, 3, 4, 5, 6, 7, 8, 200]
    let lines := (render code).toList.splitOn '\n'
    code ≠ [] ∧ read (render code) = some code ∧ lines.length = 11 ∧
      lines[10]? = some "10 - C8 - NOP".toList ∧ ∃ digits : String, digits.length = 2 ∧
        Numeral.value 16 digits.toList = 200 ∧ lines[10]? = some
          (toString 10 ++ " - " ++ digits ++ " - " ++ (Opcode.ofByte 200).mnemonic).toList := by
  intro code lines
  have filled : code ≠ [] := List.cons_ne_nil _ _
  obtain ⟨reads, -, shape⟩ := listing_lossless
  obtain ⟨count, -, each⟩ := shape code filled
  obtain ⟨digits, two, value, last, -⟩ := each 10 200 rfl
  have shown : line 10 200 = "10 - C8 - NOP" := by decide +kernel
  refine ⟨filled, (reads _ code).mpr rfl, count, ?_, digits, two, value, last⟩
  rw [← shown]
  exact getElem?_splitOn_render rfl

end TapeMachine.Listing
