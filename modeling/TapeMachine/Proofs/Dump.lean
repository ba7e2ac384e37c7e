import Mathlib.Data.List.Basic
import TapeMachine.Dump
import TapeMachine.Proofs.Text.Fields

/-!
Taking dumps apart. Main statement: the dump of a machine tells its registers, its cells and its
output, so that machines with the same dump agree in all of them; a dump has one line for each cell,
in order, and a mark on the line of the cell under the pointer only.
-/

set_option autoImplicit false

namespace TapeMachine.Dump

/-- The lines of a dump, each with the break at its end. -/
private def layout (m : Machine) : List String :=
  ["=== MEMORY DUMP ===\n", registers m, "\n"] ++
    (cellLines m.tape.pointer 0 m.tape.cells.toList ++
      ["\n", "=== OUTPUT ===\n", outputLine m, "\n", "=== END DUMP ===\n"])

/-- The line of a cell without the break at its end. -/
def cellText (pointer index : Nat) (cell : UInt8) : List Char :=
  (cellLine pointer index cell).toList.dropLast

/-- Whether a line of a dump is that of a cell: it begins with a digit and has a colon in it. -/
def isCellText (line : List Char) : Bool := line.head?.any Char.isDigit && line.contains ':'

/-- Whether an arrow stands in a line. -/
def isMarked (line : List Char) : Bool := line.contains '<'

variable {m m' : Machine} {pointer index : Nat} {c : Char}

section Registers

/-- The words on the line of the registers; two blanks stand in front of a name. -/
private def registerWords (m : Machine) : List (List Char) :=
  ["cells:".toList, Text.decimal m.tape.capacity, [], "pointer:".toList,
    Text.decimal m.tape.pointer, [], "pc:".toList, Text.decimal m.pc, [], "steps:".toList,
    Text.decimal m.steps]

private theorem toList_registers (m : Machine) :
    (registers m).toList = [' '].intercalate (registerWords m) ++ ['\n'] := by
  unfold registers
  simp only [String.toList_append, Text.toList_toString, List.append_assoc, registerWords,
    List.intercalate_cons_cons, List.intercalate_singleton]
  rfl

private theorem notMem_registerWords (other : c.isDigit = false)
    (names : ∀ name ∈ ["cells:", "pointer:", "pc:", "steps:"], c ∉ name.toList) :
    ∀ word ∈ registerWords m, c ∉ word := by
  have digits (n : Nat) : c ∉ Text.decimal n := Text.notMem_decimal other n
  simp only [List.forall_mem_cons, List.not_mem_nil, false_implies, implies_true, and_true] at names
  obtain ⟨cells, pointer, pc, steps⟩ := names
  simp only [registerWords, List.forall_mem_cons, List.not_mem_nil, false_implies, implies_true,
    and_true]
  exact ⟨cells, digits _, not_false, pointer, digits _, not_false, pc, digits _, not_false, steps,
    digits _⟩

private theorem notMem_registers (other : c.isDigit = false) (blank : c ≠ ' ')
    (names : ∀ name ∈ ["cells:", "pointer:", "pc:", "steps:"], c ∉ name.toList) :
    c ∉ (registers m).toList.dropLast := by
  rw [toList_registers, List.dropLast_concat]
  exact Text.notMem_intercalate blank (notMem_registerWords other names)

private theorem isLine_registers (m : Machine) : Text.IsLine (registers m).toList := by
  have unbroken : '\n' ∉ (registers m).toList.dropLast :=
    notMem_registers (by decide) (by decide) (by decide)
  rw [toList_registers, List.dropLast_concat] at unbroken
  exact ⟨_, unbroken, toList_registers m⟩

private theorem registers_injective (same : registers m = registers m') :
    m.tape.capacity = m'.tape.capacity ∧ m.tape.pointer = m'.tape.pointer ∧ m.pc = m'.pc ∧
      m.steps = m'.steps := by
  have texts := congrArg String.toList same
  rw [toList_registers, toList_registers] at texts
  have apart (m : Machine) : ∀ word ∈ registerWords m, ' ' ∉ word :=
    notMem_registerWords (by decide) (by decide)
  have words := congrArg (List.splitOn ' ') (List.append_cancel_right texts)
  rw [List.splitOn_intercalate ' ' (apart m) (List.cons_ne_nil _ _),
    List.splitOn_intercalate ' ' (apart m') (List.cons_ne_nil _ _)] at words
  simpa only [registerWords, List.cons.injEq, Text.decimal_injective.eq_iff, true_and, and_true]
    using words

end Registers

section Output

private def outputWords (m : Machine) : List (List Char) :=
  m.output.toList.map fun b => Text.decimal b.toNat

private theorem toList_outputLine (m : Machine) :
    (outputLine m).toList = [' '].intercalate (outputWords m) ++ ['\n'] := by
  rw [outputLine, String.toList_append, String.toList_intercalate, List.map_map]
  simp only [Function.comp_def, Text.toList_toString]
  rfl

private theorem notMem_outputWords (other : c.isDigit = false) :
    ∀ word ∈ outputWords m, c ∉ word := by
  intro word listed
  obtain ⟨b, -, rfl⟩ := List.mem_map.mp listed
  exact Text.notMem_decimal other b.toNat

private theorem notMem_outputLine (other : c.isDigit = false) (blank : c ≠ ' ') :
    c ∉ (outputLine m).toList.dropLast := by
  rw [toList_outputLine, List.dropLast_concat]
  exact Text.notMem_intercalate blank (notMem_outputWords other)

private theorem isLine_outputLine (m : Machine) : Text.IsLine (outputLine m).toList := by
  have unbroken : '\n' ∉ (outputLine m).toList.dropLast :=
    notMem_outputLine (by decide) (by decide)
  rw [toList_outputLine, List.dropLast_concat] at unbroken
  exact ⟨_, unbroken, toList_outputLine m⟩

private theorem outputLine_injective (same : outputLine m = outputLine m') :
    m.output = m'.output := by
  have texts := congrArg String.toList same
  rw [toList_outputLine, toList_outputLine] at texts
  have filled (m : Machine) : ∀ word ∈ outputWords m, word ≠ [] := by
    intro word listed
    obtain ⟨b, -, rfl⟩ := List.mem_map.mp listed
    exact Text.decimal_ne_nil b.toNat
  have words : outputWords m = outputWords m' := by
    rw [← Text.filter_splitOn_intercalate (notMem_outputWords (c := ' ') rfl) (filled m),
      List.append_cancel_right texts,
      Text.filter_splitOn_intercalate (notMem_outputWords (c := ' ') rfl) (filled m')]
  have numbers : Function.Injective fun b : UInt8 => Text.decimal b.toNat := by
    intro b b' digits
    exact UInt8.toNat_inj.mp (Text.decimal_injective digits)
  exact Array.toList_inj.mp (List.map_injective_iff.mpr numbers words)

end Output

section Cell

/-- The parts of a cell's line in order. -/
private def cellParts (pointer index : Nat) (cell : UInt8) : List (List Char) :=
  [(Text.zeroFilled 4 index).toList, ": ".toList, (Text.upperHex 2 cell.toNat).toList,
    "  (".toList, Text.decimal cell.toNat, ")".toList,
    if index = pointer then "  <- ptr".toList else []]

private theorem toList_cellLine (pointer index : Nat) (cell : UInt8) :
    (cellLine pointer index cell).toList = (cellParts pointer index cell).flatten ++ ['\n'] := by
  have mark : (if index = pointer then "  <- ptr" else "").toList =
      if index = pointer then "  <- ptr".toList else [] := apply_ite String.toList _ _ _
  unfold cellLine
  simp only [String.toList_append, mark, Text.toList_toString, cellParts, List.flatten_cons,
    List.flatten_nil, List.append_nil, List.append_assoc]
  rfl

private theorem cellText_eq (pointer index : Nat) (cell : UInt8) :
    cellText pointer index cell = (cellParts pointer index cell).flatten := by
  rw [cellText, toList_cellLine, List.dropLast_concat]

private theorem notMem_cellText {cell : UInt8} (other : c.isDigit = false)
    (hexadecimal : ∀ d < 16, Text.hexDigit 'A' d ≠ c)
    (fixed : ∀ part ∈ [": ", "  (", ")"], c ∉ part.toList)
    (mark : index = pointer → c ∉ "  <- ptr".toList) : c ∉ cellText pointer index cell := by
  have place : c ∉ (Text.zeroFilled 4 index).toList := by
    intro among
    rw [Text.isDigit_of_mem_zeroFilled among] at other
    contradiction
  have value : c ∉ (Text.upperHex 2 cell.toNat).toList :=
    Text.notMem_upperHex hexadecimal 2 cell.toNat
  have last : c ∉ if index = pointer then "  <- ptr".toList else [] := by
    split
    · next here => exact mark here
    · exact List.not_mem_nil
  simp only [List.forall_mem_cons, List.not_mem_nil, false_implies, implies_true, and_true] at fixed
  obtain ⟨colon, opening, closing⟩ := fixed
  have parts : ∀ part ∈ cellParts pointer index cell, c ∉ part := by
    simp only [cellParts, List.forall_mem_cons, List.not_mem_nil, false_implies, implies_true,
      and_true]
    exact ⟨place, colon, value, opening, Text.notMem_decimal other _, closing, last⟩
  rw [cellText_eq, List.mem_flatten]
  rintro ⟨part, listed, within⟩
  exact parts part listed within

private theorem isLine_cellLine (pointer index : Nat) (cell : UInt8) :
    Text.IsLine (cellLine pointer index cell).toList := by
  have unbroken : '\n' ∉ cellText pointer index cell :=
    notMem_cellText (by decide) (by decide) (by decide) fun _ => by decide
  rw [cellText_eq] at unbroken
  exact ⟨_, unbroken, toList_cellLine pointer index cell⟩

private theorem isCellText_cellText (pointer index : Nat) (cell : UInt8) :
    isCellText (cellText pointer index cell) := by
  have colon : ':' ∈ cellText pointer index cell := by
    rw [cellText_eq, List.mem_flatten]
    exact ⟨": ".toList, List.mem_cons_of_mem _ List.mem_cons_self, by decide⟩
  have digit : (cellText pointer index cell).head?.any Char.isDigit := by
    obtain ⟨d, rest, place⟩ :=
      List.exists_cons_of_ne_nil (Text.toList_zeroFilled_ne_nil 4 index)
    have first : d ∈ (Text.zeroFilled 4 index).toList := place ▸ List.mem_cons_self
    rw [cellText_eq, cellParts, List.flatten_cons, place]
    exact Text.isDigit_of_mem_zeroFilled first
  rw [isCellText, digit, List.contains_iff_mem.mpr colon]
  rfl

private theorem isMarked_cellText (pointer index : Nat) (cell : UInt8) :
    isMarked (cellText pointer index cell) = decide (index = pointer) := by
  by_cases here : index = pointer
  · have arrow : '<' ∈ cellText pointer index cell := by
      rw [cellText_eq, cellParts, if_pos here, List.mem_flatten]
      exact ⟨"  <- ptr".toList, List.mem_append_right [_, _, _, _, _, _] List.mem_cons_self,
        by decide⟩
    rw [isMarked, List.contains_iff_mem.mpr arrow, decide_eq_true here]
  · have plain : '<' ∉ cellText pointer index cell :=
      notMem_cellText (by decide) (by decide) (by decide) fun same => absurd same here
    rw [isMarked, decide_eq_false here, ← Bool.not_eq_true, List.contains_iff_mem]
    exact plain

private theorem place_prefix_cellText (pointer index : Nat) (cell : UInt8) :
    (Text.zeroFilled 4 index).toList ++ ": ".toList <+: cellText pointer index cell := by
  rw [cellText_eq, cellParts, List.flatten_cons, List.flatten_cons, ← List.append_assoc]
  exact List.prefix_append _ _

private theorem cellText_self (pointer : Nat) (cell : UInt8) :
    cellText pointer pointer cell = cellText (pointer + 1) pointer cell ++ "  <- ptr".toList := by
  have apart : pointer ≠ pointer + 1 := Nat.ne_of_lt (Nat.lt_succ_self pointer)
  simp only [cellText_eq, cellParts, if_true, if_neg apart, List.flatten_cons,
    List.flatten_nil, List.append_nil, List.append_assoc]

private theorem count_cellText_self (pointer : Nat) (cell : UInt8) :
    (cellText pointer pointer cell).count '<' = 1 := by
  have plain : '<' ∉ cellText (pointer + 1) pointer cell :=
    notMem_cellText (by decide) (by decide) (by decide) fun same =>
      absurd same (Nat.ne_of_lt (Nat.lt_succ_self pointer))
  rw [cellText_self, List.count_append, List.count_eq_zero.mpr plain]
  decide

private theorem cellLine_injective (pointer index : Nat) :
    Function.Injective (cellLine pointer index) := by
  intro cell cell' same
  have texts := congrArg String.toList same
  rw [toList_cellLine, toList_cellLine] at texts
  have parts := List.append_cancel_right texts
  simp only [cellParts, List.flatten_cons] at parts
  have value := List.append_inj_left
    (List.append_cancel_left (List.append_cancel_left parts)) (by
      simp only [String.length_toList, Text.length_upperHex])
  exact Text.upperHex_toNat_injective (String.toList_inj.mp value)

end Cell

section Layout

variable {cells cells' : List UInt8}

private theorem cellLines_eq_mapIdx (pointer index : Nat) (cells : List UInt8) :
    cellLines pointer index cells = cells.mapIdx fun i => cellLine pointer (index + i) :=
  Text.eq_mapIdx_of_cons (fun _ => rfl) (fun _ _ _ => rfl) index cells

private theorem exists_of_mem_cellLines {line : String}
    (among : line ∈ cellLines pointer index cells) :
    ∃ i cell, line = cellLine pointer i cell := by
  rw [cellLines_eq_mapIdx] at among
  obtain ⟨i, inside, rfl⟩ := List.mem_mapIdx.mp among
  exact ⟨index + i, cells[i], rfl⟩

private theorem cellLines_injective
    (same : cellLines pointer index cells = cellLines pointer index cells') : cells = cells' := by
  induction cells generalizing index cells' with
  | nil =>
    cases cells' with
    | nil => rfl
    | cons cell cells' => contradiction
  | cons cell cells ih =>
    cases cells' with
    | nil => contradiction
    | cons cell' cells' =>
      obtain ⟨first, rest⟩ := List.cons.inj same
      rw [cellLine_injective pointer index first, ih rest]

private theorem render_eq_join (m : Machine) : render m = String.join (layout m) := by
  have output : "\n=== OUTPUT ===\n" = "\n" ++ "=== OUTPUT ===\n" := by decide
  have closing : "\n=== END DUMP ===\n" = "\n" ++ "=== END DUMP ===\n" := by decide
  unfold render
  rw [output, closing]
  simp only [layout, String.join_append, String.join_cons, String.join_nil, String.append_assoc,
    String.append_empty]

private theorem toList_render (m : Machine) :
    (render m).toList = ((layout m).map String.toList).flatten := by
  rw [render_eq_join, String.toList_join, List.flatMap_def]

private theorem isLine_layout (m : Machine) :
    ∀ line ∈ (layout m).map String.toList, Text.IsLine line := by
  have blank : Text.IsLine "\n".toList := ⟨[], List.not_mem_nil, rfl⟩
  have top : Text.IsLine "=== MEMORY DUMP ===\n".toList :=
    ⟨"=== MEMORY DUMP ===".toList, by decide, by decide⟩
  have output : Text.IsLine "=== OUTPUT ===\n".toList :=
    ⟨"=== OUTPUT ===".toList, by decide, by decide⟩
  have bottom : Text.IsLine "=== END DUMP ===\n".toList :=
    ⟨"=== END DUMP ===".toList, by decide, by decide⟩
  have cells : ∀ line ∈ cellLines m.tape.pointer 0 m.tape.cells.toList,
      Text.IsLine line.toList := by
    intro line among
    obtain ⟨i, cell, rfl⟩ := exists_of_mem_cellLines among
    exact isLine_cellLine m.tape.pointer i cell
  simp only [layout, List.forall_mem_map, List.forall_mem_append, List.forall_mem_cons,
    List.not_mem_nil, false_implies, implies_true, and_true]
  exact ⟨⟨top, isLine_registers m, blank⟩, cells, blank, output, isLine_outputLine m, blank, bottom⟩

private theorem layout_injective (same : render m = render m') : layout m = layout m' := by
  have texts := congrArg String.toList same
  rw [toList_render, toList_render] at texts
  have lines := Text.flatten_injective (isLine_layout m) (isLine_layout m') texts
  exact List.map_injective_iff.mpr (fun _ _ => String.toList_inj.mp) lines

theorem splitOn_render (m : Machine) : (render m).toList.splitOn '\n' =
    "=== MEMORY DUMP ===".toList :: (registers m).toList.dropLast :: "".toList ::
      (m.tape.cells.toList.mapIdx (cellText m.tape.pointer) ++
        ["".toList, "=== OUTPUT ===".toList, (outputLine m).toList.dropLast, "".toList,
          "=== END DUMP ===".toList, "".toList]) := by
  have cells : (cellLines m.tape.pointer 0 m.tape.cells.toList).map
      (List.dropLast ∘ String.toList) = m.tape.cells.toList.mapIdx (cellText m.tape.pointer) := by
    have text (i : Nat) : (List.dropLast ∘ String.toList) ∘ cellLine m.tape.pointer i =
        cellText m.tape.pointer i := by
      funext cell
      rw [cellText, Function.comp_apply, Function.comp_apply]
    refine (List.mapIdx_eq_iff.mpr fun i => ?_).symm
    rw [List.getElem?_map, cellLines_eq_mapIdx, List.getElem?_mapIdx, Option.map_map, Nat.zero_add,
      text]
  have top : "=== MEMORY DUMP ===\n".toList.dropLast = "=== MEMORY DUMP ===".toList := by decide
  have output : "=== OUTPUT ===\n".toList.dropLast = "=== OUTPUT ===".toList := by decide
  have bottom : "=== END DUMP ===\n".toList.dropLast = "=== END DUMP ===".toList := by decide
  rw [toList_render, Text.splitOn_flatten (isLine_layout m), List.map_map, layout]
  simp only [List.map_append, List.map_cons, List.map_nil, cells, Function.comp_apply, top, output,
    bottom, List.append_assoc]
  rfl

private theorem filter_splitOn_render {f : List Char → Bool}
    (fixed : ∀ line ∈ ["=== MEMORY DUMP ===", "", "=== OUTPUT ===", "=== END DUMP ==="],
      f line.toList = false)
    (registers : f (registers m).toList.dropLast = false)
    (output : f (outputLine m).toList.dropLast = false) :
    ((render m).toList.splitOn '\n').filter f =
      (m.tape.cells.toList.mapIdx (cellText m.tape.pointer)).filter f := by
  simp only [List.forall_mem_cons, List.not_mem_nil, false_implies, implies_true, and_true] at fixed
  obtain ⟨top, blank, heading, bottom⟩ := fixed
  simp only [splitOn_render, List.filter_append, List.filter_cons, List.filter_nil, top, blank,
    heading, bottom, registers, output, List.append_nil, reduceCtorEq, if_false]

private theorem filter_isCellText (m : Machine) :
    ((render m).toList.splitOn '\n').filter isCellText =
      m.tape.cells.toList.mapIdx (cellText m.tape.pointer) := by
  have registers : isCellText (registers m).toList.dropLast = false := by
    rw [toList_registers, List.dropLast_concat]
    rfl
  have output : isCellText (outputLine m).toList.dropLast = false := by
    have colon : ':' ∉ (outputLine m).toList.dropLast := notMem_outputLine (by decide) (by decide)
    rw [isCellText, Bool.and_eq_false_iff, ← Bool.not_eq_true (List.contains _ _),
      List.contains_iff_mem]
    exact .inr colon
  rw [filter_splitOn_render (by decide) registers output, List.filter_eq_self]
  intro line among
  obtain ⟨i, inside, rfl⟩ := List.mem_mapIdx.mp among
  exact isCellText_cellText _ _ _

private theorem filter_isMarked_mapIdx (front back : List UInt8) (cell : UInt8) :
    ((front ++ cell :: back).mapIdx (cellText front.length)).filter isMarked =
      [cellText front.length front.length cell] := by
  have before : ∀ line ∈ front.mapIdx (cellText front.length), ¬ isMarked line := by
    intro line among
    obtain ⟨i, inside, rfl⟩ := List.mem_mapIdx.mp among
    rw [isMarked_cellText, decide_eq_true_iff]
    omega
  have behind : ∀ line ∈ back.mapIdx fun i => cellText front.length (i + 1 + front.length),
      ¬ isMarked line := by
    intro line among
    obtain ⟨i, -, rfl⟩ := List.mem_mapIdx.mp among
    rw [isMarked_cellText, decide_eq_true_iff]
    omega
  have here : isMarked (cellText front.length (0 + front.length) cell) := by
    rw [isMarked_cellText, Nat.zero_add, decide_eq_true rfl]
  rw [List.mapIdx_append, List.mapIdx_cons, List.filter_append, List.filter_eq_nil_iff.mpr before,
    List.filter_cons_of_pos here, List.filter_eq_nil_iff.mpr behind, List.nil_append, Nat.zero_add]

private theorem filter_isMarked (m : Machine) : ((render m).toList.splitOn '\n').filter isMarked =
    [cellText m.tape.pointer m.tape.pointer m.tape.read] := by
  have registers : isMarked (registers m).toList.dropLast = false := by
    rw [isMarked, ← Bool.not_eq_true, List.contains_iff_mem]
    exact notMem_registers (by decide) (by decide) (by decide)
  have output : isMarked (outputLine m).toList.dropLast = false := by
    rw [isMarked, ← Bool.not_eq_true, List.contains_iff_mem]
    exact notMem_outputLine (by decide) (by decide)
  rw [filter_splitOn_render (by decide) registers output]
  obtain ⟨⟨cells⟩, pointer, inside⟩ := m.tape
  have marked := filter_isMarked_mapIdx (cells.take pointer) (cells.drop (pointer + 1))
    cells[pointer]
  have front : (cells.take pointer).length = pointer := List.length_take_of_le (Nat.le_of_lt inside)
  rwa [← List.drop_eq_getElem_cons, List.take_append_drop, front] at marked

/-- What a dump tells. -/
theorem eq_of_render_eq (same : render m = render m') :
    m.tape.capacity = m'.tape.capacity ∧ m.tape.pointer = m'.tape.pointer ∧ m.pc = m'.pc ∧
      m.steps = m'.steps ∧ m.tape.cells = m'.tape.cells ∧ m.output = m'.output := by
  have lines := layout_injective same
  simp only [layout, List.cons_append, List.nil_append, List.cons.injEq, true_and] at lines
  obtain ⟨first, lines⟩ := lines
  obtain ⟨capacity, pointer, pc, steps⟩ := registers_injective first
  have length (t : Tape) : (cellLines t.pointer 0 t.cells.toList).length = t.capacity := by
    rw [cellLines_eq_mapIdx, List.length_mapIdx, Array.length_toList]
    rfl
  obtain ⟨cells, bottom⟩ := List.append_inj lines (by rw [length, length, capacity])
  rw [pointer] at cells
  simp only [List.cons.injEq, true_and, and_true] at bottom
  exact ⟨capacity, pointer, pc, steps, Array.toList_inj.mp (cellLines_injective cells),
    outputLine_injective bottom⟩

end Layout

/--
Machines with the same dump have the same number of cells, the same cells, output and registers. Of
the lines of a dump, as many as there are cells are those of cells: the first is that of the first
cell, and so on, each beginning with the place of its cell. An arrow stands on one line only, once,
and this is the line of the cell under the pointer.
-/
theorem dump_lossless (m : Machine) :
    (∀ m', render m = render m' →
      m.tape.capacity = m'.tape.capacity ∧ m.tape.pointer = m'.tape.pointer ∧ m.pc = m'.pc ∧
        m.steps = m'.steps ∧ m.tape.cells = m'.tape.cells ∧ m.output = m'.output) ∧
    let lines := (render m).toList.splitOn '\n'
    let shown := lines.filter isCellText
    shown.length = m.tape.capacity ∧
    (∀ (i : Nat) (cell : UInt8), m.tape.cells[i]? = some cell → ∃ line, shown[i]? = some line ∧
      line ++ ['\n'] = (cellLine m.tape.pointer i cell).toList ∧
      (Text.zeroFilled 4 i).toList ++ ": ".toList <+: line) ∧
    ∃ line, shown[m.tape.pointer]? = some line ∧ lines.filter isMarked = [line] ∧
      line.count '<' = 1 := by
  refine ⟨fun m' => eq_of_render_eq, ?_⟩
  intro lines shown
  have texts : shown = m.tape.cells.toList.mapIdx (cellText m.tape.pointer) := filter_isCellText m
  have line (i : Nat) (cell : UInt8) (here : m.tape.cells[i]? = some cell) :
      shown[i]? = some (cellText m.tape.pointer i cell) := by
    rw [texts, List.getElem?_mapIdx, Array.getElem?_toList, here, Option.map_some]
  refine ⟨?_, ?_, ?_⟩
  · rw [texts, List.length_mapIdx, Array.length_toList]
    rfl
  · intro i cell here
    refine ⟨_, line i cell here, ?_, place_prefix_cellText _ i cell⟩
    rw [cellText_eq, toList_cellLine]
  · have here : m.tape.cells[m.tape.pointer]? = some m.tape.read := by
      obtain ⟨cells, pointer, inside⟩ := m.tape
      exact Array.getElem?_eq_getElem inside
    exact ⟨_, line _ _ here, filter_isMarked m, count_cellText_self _ _⟩

theorem dump_lossless_two_cells :
    let m : Machine := ⟨#[.ptrRight, .write], 2, [], ⟨#[0, 7], 1, by decide⟩, [], #[7], 2, false, 0⟩
    let m' : Machine := { m with code := #[.ptrRight, .write, .read], input := [5] }
    let lines := (render m').toList.splitOn '\n'
    render m = render m' ∧ m ≠ m' ∧ m.tape.cells = m'.tape.cells ∧
      lines.filter isMarked = ["0001: 07  (7)  <- ptr".toList] := by
  intro m m' lines
  have same : render m = render m' := rfl
  obtain ⟨-, -, -, -, cells, -⟩ := (dump_lossless m).1 m' same
  obtain ⟨-, -, each, line, here, marked, -⟩ := dump_lossless m'
  obtain ⟨_, listed, text, -⟩ := each 1 7 rfl
  obtain rfl := Option.some.inj (here.symm.trans listed)
  have shown : line = "0001: 07  (7)  <- ptr".toList := by
    have broken : (cellLine 1 1 7).toList = "0001: 07  (7)  <- ptr".toList ++ ['\n'] := by decide
    exact List.append_cancel_right (text.trans broken)
  exact ⟨same, by decide, cells, shown ▸ marked⟩

end TapeMachine.Dump
