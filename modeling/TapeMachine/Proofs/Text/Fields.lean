import Mathlib.Logic.Function.Basic
import TapeMachine.Number.Numeral
import TapeMachine.Text.Pad

set_option autoImplicit false

namespace TapeMachine

namespace Numeral

private theorem value_concat {base d : Nat} {c : Char} (digit : digit? c = some d)
    (digits : List Char) :
    value base (digits ++ [c]) = value base digits * base + d := by
  simp only [value, List.foldl_append, List.foldl_cons, List.foldl_nil, digit]

end Numeral

namespace Text

variable {c : Char} {n : Nat}

section Decimal

theorem toList_toString (n : Nat) : (toString n).toList = decimal n := Nat.toList_repr

private theorem isDigit_of_mem_decimal (among : c ∈ decimal n) : c.isDigit :=
  Nat.isDigit_of_mem_toDigits (by decide) (by decide) among

theorem notMem_decimal (other : c.isDigit = false) (n : Nat) : c ∉ decimal n := by
  intro among
  rw [isDigit_of_mem_decimal among] at other
  contradiction

theorem decimal_ne_nil (n : Nat) : decimal n ≠ [] := Nat.toDigits_ne_nil

theorem decimal_injective : Function.Injective decimal := by
  intro n n' same
  have read (n : Nat) : Nat.ofDigitChars 10 (decimal n) 0 = n := Nat.ofDigitChars_ten_toDigits
  rw [← read n, same, read]

theorem toList_zeroFilled_ne_nil (width n : Nat) : (zeroFilled width n).toList ≠ [] := by
  rw [zeroFilled, String.toList_ofList, padLeft]
  exact List.append_ne_nil_of_right_ne_nil _ (decimal_ne_nil n)

theorem isDigit_of_mem_zeroFilled {width : Nat} (among : c ∈ (zeroFilled width n).toList) :
    c.isDigit := by
  rw [zeroFilled, String.toList_ofList, padLeft, List.mem_append] at among
  rcases among with filled | among
  · rw [List.eq_of_mem_replicate filled]
    rfl
  · exact isDigit_of_mem_decimal among

end Decimal

section Hexadecimal

private theorem digit?_hexDigit : ∀ d < 16, Numeral.digit? (hexDigit 'A' d) = some d := by decide

private theorem value_hexDigits_succ (width n : Nat) :
    Numeral.value 16 (hexDigits 'A' (width + 1) n) =
    Numeral.value 16 (hexDigits 'A' width (n / 16)) * 16 + n % 16 := by
  have below : n % 16 < 16 := Nat.mod_lt n (by decide)
  exact Numeral.value_concat (digit?_hexDigit _ below) _

theorem value_upperHex_toNat (b : UInt8) :
    Numeral.value 16 (upperHex 2 b.toNat).toList = b.toNat := by
  have below := b.toNat_lt
  have none : Numeral.value 16 (hexDigits 'A' 0 (b.toNat / 16 / 16)) = 0 := rfl
  rw [upperHex, String.toList_ofList, value_hexDigits_succ, value_hexDigits_succ, none]
  omega

theorem upperHex_toNat_injective : Function.Injective fun b : UInt8 => upperHex 2 b.toNat := by
  intro b b' same
  have values := congrArg (fun text : String => Numeral.value 16 text.toList) same
  simp only [value_upperHex_toNat] at values
  exact UInt8.toNat_inj.mp values

private theorem length_hexDigits (a : Char) (width n : Nat) :
    (hexDigits a width n).length = width := by
  induction width generalizing n with
  | zero => rfl
  | succ width ih => rw [hexDigits, List.length_append, ih, List.length_singleton]

theorem length_upperHex (width n : Nat) : (upperHex width n).length = width := by
  rw [upperHex, String.length_ofList, length_hexDigits]

private theorem notMem_hexDigits (other : ∀ d < 16, hexDigit 'A' d ≠ c) (width n : Nat) :
    c ∉ hexDigits 'A' width n := by
  induction width generalizing n with
  | zero => exact List.not_mem_nil
  | succ width ih =>
    have last : hexDigit 'A' (n % 16) ≠ c := other _ (Nat.mod_lt n (by decide))
    rw [hexDigits, List.mem_append, List.mem_singleton]
    rintro (among | same)
    · exact ih (n / 16) among
    · exact last same.symm

theorem notMem_upperHex (other : ∀ d < 16, hexDigit 'A' d ≠ c) (width n : Nat) :
    c ∉ (upperHex width n).toList := by
  rw [upperHex, String.toList_ofList]
  exact notMem_hexDigits other width n

end Hexadecimal

section Words

variable {separator : Char} {words : List (List Char)}

theorem eq_of_splitOn_eq {text text' : List Char}
    (same : text.splitOn separator = text'.splitOn separator) : text = text' := by
  have joined := congrArg [separator].intercalate same
  rwa [List.intercalate_splitOn, List.intercalate_splitOn] at joined

private theorem mem_intercalate (among : c ∈ [separator].intercalate words) :
    c = separator ∨ ∃ word ∈ words, c ∈ word := by
  induction words with
  | nil => contradiction
  | cons word words ih =>
    rcases eq_or_ne words [] with rfl | more
    · rw [List.intercalate_singleton] at among
      exact .inr ⟨word, List.mem_cons_self, among⟩
    · rw [List.intercalate_cons_of_ne_nil more, List.mem_append, List.mem_append,
        List.mem_singleton] at among
      rcases among with (first | same) | later
      · exact .inr ⟨word, List.mem_cons_self, first⟩
      · exact .inl same
      · rcases ih later with same | ⟨other, listed, within⟩
        · exact .inl same
        · exact .inr ⟨other, List.mem_cons_of_mem _ listed, within⟩

theorem notMem_intercalate (other : c ≠ separator) (without : ∀ word ∈ words, c ∉ word) :
    c ∉ [separator].intercalate words := by
  intro among
  rcases mem_intercalate among with same | ⟨word, listed, within⟩
  · exact other same
  · exact without word listed within

theorem filter_splitOn_intercalate (apart : ∀ word ∈ words, separator ∉ word)
    (filled : ∀ word ∈ words, word ≠ []) :
    (([separator].intercalate words).splitOn separator).filter (fun word => !word.isEmpty) =
      words := by
  rcases eq_or_ne words [] with rfl | nonempty
  · rfl
  · rw [List.splitOn_intercalate separator apart nonempty, List.filter_eq_self]
    intro word among
    simpa using filled word among

end Words

section Lines

/-- A text that is one line, with the break at its end. -/
def IsLine (line : List Char) : Prop := ∃ text, '\n' ∉ text ∧ line = text ++ ['\n']

variable {line : List Char} {lines lines' : List (List Char)}

theorem eq_mapIdx_of_cons {α β : Type} {single : Nat → α → β} {all : Nat → List α → List β}
    (nil : ∀ i, all i [] = [])
    (cons : ∀ i a rest, all i (a :: rest) = single i a :: all (i + 1) rest) (i : Nat)
    (parts : List α) : all i parts = parts.mapIdx fun j => single (i + j) := by
  induction parts generalizing i with
  | nil => exact nil i
  | cons a rest ih =>
    have next : (fun j => single (i + 1 + j)) = fun j => single (i + (j + 1)) := by
      funext j
      rw [Nat.add_right_comm, Nat.add_assoc]
    rw [cons, ih, next, List.mapIdx_cons, Nat.add_zero]

private theorem IsLine.dropLast_append (single : IsLine line) : line.dropLast ++ ['\n'] = line := by
  obtain ⟨text, -, rfl⟩ := single
  rw [List.dropLast_concat]

theorem splitOn_flatten (whole : ∀ line ∈ lines, IsLine line) :
    lines.flatten.splitOn '\n' = lines.map List.dropLast ++ [[]] := by
  induction lines with
  | nil => rfl
  | cons line lines ih =>
    obtain ⟨text, unbroken, rfl⟩ := whole line List.mem_cons_self
    have rest : lines.flatten.splitOn '\n' = lines.map List.dropLast ++ [[]] :=
      ih fun line among => whole line (List.mem_cons_of_mem _ among)
    rw [List.flatten_cons, List.append_assoc, List.singleton_append,
      List.splitOn_append_cons_self_of_not_mem unbroken, rest, List.map_cons, List.dropLast_concat,
      List.cons_append]

private theorem map_dropLast_append (whole : ∀ line ∈ lines, IsLine line) :
    (lines.map List.dropLast).map (· ++ ['\n']) = lines := by
  rw [List.map_map]
  calc lines.map ((· ++ ['\n']) ∘ List.dropLast)
      = lines.map id := List.map_congr_left fun line among => (whole line among).dropLast_append
    _ = lines := List.map_id lines

theorem flatten_injective (whole : ∀ line ∈ lines, IsLine line)
    (whole' : ∀ line ∈ lines', IsLine line) (same : lines.flatten = lines'.flatten) :
    lines = lines' := by
  have split := congrArg (List.splitOn '\n') same
  rw [splitOn_flatten whole, splitOn_flatten whole'] at split
  rw [← map_dropLast_append whole, List.append_cancel_right split, map_dropLast_append whole']

end Lines

end Text

end TapeMachine
