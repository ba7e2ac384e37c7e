import TapeMachine.Path

set_option autoImplicit false

namespace TapeMachine.Path

variable {name more : List Char} {names : List (List Char)} {p : Path}

/-- A name that leads somewhere: it is not left out in reading, and no slash parts it. -/
structure IsName (name : List Char) : Prop where
  ne_nil : name ≠ []
  ne_dot : name ≠ ['.']
  noSlash : '/' ∉ name

/-- The form of the paths that texts are read into. -/
structure Normal (p : Path) : Prop where
  root : p.root = [] ∨ p.root = ['/'] ∨ p.root = ['/', '/']
  names : ∀ name ∈ p.names, IsName name

/-- The path beside a path that has another last name. -/
def sibling (p : Path) (name : List Char) : Path := { p with names := p.names.dropLast ++ [name] }

theorem isName_of_one_lt_length (long : 1 < name.length) (noSlash : '/' ∉ name) : IsName name := by
  refine ⟨?_, ?_, noSlash⟩
  all_goals
    rintro rfl
    simp at long

section Split

private theorem splitSlashes_ne_nil (text : List Char) : splitSlashes text ≠ [] := by
  cases text with
  | nil => simp [splitSlashes]
  | cons c rest =>
    rw [splitSlashes]
    split
    · split <;> simp
    · simp

theorem splitSlashes_cons_slash (rest : List Char) :
    splitSlashes ('/' :: rest) = [] :: splitSlashes rest := by
  cases split : splitSlashes rest with
  | nil => exact absurd split (splitSlashes_ne_nil rest)
  | cons part parts => simp only [splitSlashes, split, if_true]

private theorem splitSlashes_append_slash (noSlash : '/' ∉ name) (rest : List Char) :
    splitSlashes (name ++ '/' :: rest) = name :: splitSlashes rest := by
  induction name with
  | nil => exact splitSlashes_cons_slash rest
  | cons c tail ih =>
    rw [List.mem_cons, not_or] at noSlash
    rw [List.cons_append, splitSlashes, ih noSlash.2]
    exact if_neg (Ne.symm noSlash.1)

private theorem splitSlashes_of_not_mem (noSlash : '/' ∉ name) : splitSlashes name = [name] := by
  induction name with
  | nil => rfl
  | cons c tail ih =>
    rw [List.mem_cons, not_or] at noSlash
    rw [splitSlashes, ih noSlash.2]
    exact if_neg (Ne.symm noSlash.1)

private theorem noSlash_of_mem_splitSlashes {text : List Char} (part : name ∈ splitSlashes text) :
    '/' ∉ name := by
  induction text generalizing name with
  | nil =>
    obtain rfl : name = [] := by simpa [splitSlashes] using part
    exact List.not_mem_nil
  | cons c rest ih =>
    by_cases slash : c = '/'
    · rw [slash, splitSlashes_cons_slash] at part
      rcases List.mem_cons.mp part with rfl | later
      · exact List.not_mem_nil
      · exact ih later
    · cases split : splitSlashes rest with
      | nil => exact absurd split (splitSlashes_ne_nil rest)
      | cons first parts =>
        rw [split] at ih
        rw [splitSlashes, split] at part
        dsimp only at part
        rw [if_neg slash] at part
        rcases List.mem_cons.mp part with rfl | later
        · exact List.not_mem_cons_of_ne_of_not_mem (Ne.symm slash) (ih List.mem_cons_self)
        · exact ih (List.mem_cons_of_mem first later)

end Split

section Joined

private theorem joined_cons_cons (first second : List Char) (rest : List (List Char)) :
    joined (first :: second :: rest) = first ++ '/' :: joined (second :: rest) := by
  rw [joined, joined, List.intercalate_cons_cons, List.append_assoc]
  rfl

theorem splitSlashes_joined (normal : ∀ name ∈ names, IsName name) (named : names ≠ []) :
    splitSlashes (joined names) = names := by
  induction names with
  | nil => contradiction
  | cons first rest ih =>
    obtain ⟨here, later⟩ := List.forall_mem_cons.mp normal
    cases rest with
    | nil => rw [joined, List.intercalate_singleton, splitSlashes_of_not_mem here.noSlash]
    | cons second rest =>
      rw [joined_cons_cons, splitSlashes_append_slash here.noSlash,
        ih later (List.cons_ne_nil second rest)]

private theorem joined_append (before : List (List Char)) (name more : List Char) :
    joined (before ++ [name ++ more]) = joined (before ++ [name]) ++ more := by
  induction before with
  | nil =>
    rw [List.nil_append, List.nil_append, joined, joined, List.intercalate_singleton,
      List.intercalate_singleton]
  | cons first rest ih =>
    cases rest with
    | nil =>
      rw [List.nil_append, List.nil_append] at ih
      rw [List.singleton_append, List.singleton_append, joined_cons_cons, joined_cons_cons, ih,
        List.append_assoc, List.cons_append]
    | cons second rest =>
      simp only [List.cons_append] at ih ⊢
      rw [joined_cons_cons, joined_cons_cons, ih, List.append_assoc, List.cons_append]

theorem head?_joined_ne_slash (normal : ∀ name ∈ names, IsName name) :
    (joined names).head? ≠ some '/' := by
  cases names with
  | nil => simp [joined]
  | cons first rest =>
    obtain ⟨c, tail, rfl⟩ := List.exists_cons_of_ne_nil (normal first List.mem_cons_self).ne_nil
    have ne : c ≠ '/' := by
      rintro rfl
      exact (normal _ List.mem_cons_self).noSlash List.mem_cons_self
    cases rest with
    | nil => simp [joined, ne]
    | cons second rest => simp [joined_cons_cons, ne]

private theorem takeWhile_joined (normal : ∀ name ∈ names, IsName name) :
    (joined names).takeWhile (· == '/') = [] := by
  have front := head?_joined_ne_slash normal
  cases text : joined names with
  | nil => rfl
  | cons c rest =>
    rw [text, List.head?_cons] at front
    rw [List.takeWhile_cons_of_neg]
    simpa using front

end Joined

section Text

private theorem namesOf_cons_slash (rest : List Char) : namesOf ('/' :: rest) = namesOf rest := by
  rw [namesOf, namesOf, splitSlashes_cons_slash]
  rfl

private theorem namesOf_joined (normal : ∀ name ∈ names, IsName name) :
    namesOf (joined names) = names := by
  cases names with
  | nil => rfl
  | cons first rest =>
    rw [namesOf, splitSlashes_joined normal (List.cons_ne_nil first rest), List.filter_eq_self]
    intro name part
    simp [(normal name part).ne_nil, (normal name part).ne_dot]

theorem normal_ofString (text : String) : Normal (ofString text) := by
  constructor
  · rw [ofString]
    dsimp only
    split
    · exact .inl rfl
    · split
      · exact .inr (.inr rfl)
      · exact .inr (.inl rfl)
  · intro name part
    obtain ⟨part, kept⟩ := List.mem_filter.mp part
    obtain ⟨ne_nil, ne_dot⟩ := of_decide_eq_true kept
    exact ⟨ne_nil, ne_dot, noSlash_of_mem_splitSlashes part⟩

theorem text_of_named (named : p.names ≠ []) :
    p.text = String.ofList (p.root ++ joined p.names) := by
  rw [text, if_neg (fun empty => named empty.2)]

theorem ofString_text (normal : Normal p) : ofString p.text = p := by
  obtain ⟨root, names⟩ := p
  by_cases empty : root = [] ∧ names = []
  · obtain ⟨rfl, rfl⟩ := empty
    rfl
  · have slashes : (root ++ joined names).takeWhile (· == '/') = root := by
      have all : root.all (· == '/') = true := by
        rcases normal.root with same | same | same
        all_goals
          obtain rfl : root = _ := same
          rfl
      rw [List.takeWhile_append_of_pos (List.all_eq_true.mp all), takeWhile_joined normal.names,
        List.append_nil]
    rw [text, if_neg empty, ofString, String.toList_ofList, slashes]
    rcases normal.root with same | same | same
    all_goals
      obtain rfl : root = _ := same
      simp [namesOf_cons_slash, namesOf_joined normal.names]

end Text

section Sibling

theorem Normal.isName_name (normal : Normal p) (named : p.names ≠ []) : IsName p.name := by
  rw [Path.name, List.getLast?_eq_some_getLast named]
  exact normal.names _ (List.getLast_mem named)

theorem Normal.sibling (normal : Normal p) (isName : IsName name) : Normal (p.sibling name) := by
  refine ⟨normal.root, ?_⟩
  intro other part
  rcases List.mem_append.mp part with before | last
  · exact normal.names other (List.dropLast_subset p.names before)
  · obtain rfl := List.mem_singleton.mp last
    exact isName

theorem sibling_name (named : p.names ≠ []) : p.sibling p.name = p := by
  have same : p.names.dropLast ++ [p.name] = p.names := by
    rw [Path.name, List.getLast?_eq_some_getLast named]
    exact List.dropLast_concat_getLast named
  rw [Path.sibling, same]

theorem text_sibling_append (p : Path) (name more : List Char) :
    (p.sibling name).text ++ String.ofList more = (p.sibling (name ++ more)).text := by
  have named (last : List Char) : (p.sibling last).names ≠ [] := List.concat_ne_nil last _
  rw [text_of_named (named name), text_of_named (named (name ++ more)), ← String.ofList_append]
  simp only [Path.sibling, joined_append, List.append_assoc]

end Sibling

section Suffix

variable {start : Nat}

private theorem exists_of_suffixStart? (found : suffixStart? name = some start) :
    ∃ tail, name.drop start = '.' :: tail ∧ '.' ∉ tail ∧ 0 < start := by
  have split := List.takeWhile_append_dropWhile (p := (· != '.')) (l := name.reverse)
  generalize tailed : name.reverse.takeWhile (· != '.') = tail at split
  generalize fronted : name.reverse.dropWhile (· != '.') = front at split
  have noDot : '.' ∉ tail := by
    intro there
    have all := List.all_takeWhile (p := (· != '.')) (l := name.reverse)
    rw [tailed, List.all_eq_true] at all
    simpa using all '.' there
  rw [suffixStart?, tailed] at found
  split at found
  · next inside =>
    obtain rfl := Option.some.inj found
    have size := congrArg List.length split
    rw [List.length_append, List.length_reverse] at size
    -- The name goes on before the tail, and what stands there last is the dot.
    cases front with
    | nil =>
      simp only [List.length_nil] at size
      omega
    | cons c before =>
      have dot : c = '.' := by
        have head := List.head?_dropWhile_not (· != '.') name.reverse
        rw [fronted] at head
        simpa using head
      have whole : name = before.reverse ++ '.' :: tail.reverse := by
        rw [← List.reverse_reverse name, ← split, dot]
        simp
      have at_dot : name.length - (tail.length + 1) = before.reverse.length := by
        rw [whole]
        simp
      refine ⟨tail.reverse, ?_, by simpa using noDot, by omega⟩
      rw [at_dot, whole, List.drop_left]
  · contradiction

theorem replaceSuffix_eq_self_iff (suffix : List Char) (p : Path) :
    replaceSuffix suffix p.name = p.name ↔ p.suffix = suffix := by
  rw [replaceSuffix, Path.suffix]
  cases suffixStart? p.name with
  | none =>
    dsimp only
    rw [List.append_right_eq_self, eq_comm]
  | some start =>
    have whole := List.take_append_drop start p.name
    constructor
    · intro same
      exact List.append_cancel_left (whole.trans same.symm)
    · rintro rfl
      exact whole

theorem length_lt_replaceSuffix (suffix : List Char) (ne : name ≠ []) :
    suffix.length < (replaceSuffix suffix name).length := by
  have positive := List.length_pos_iff.mpr ne
  rw [replaceSuffix]
  cases found : suffixStart? name with
  | none =>
    dsimp only
    rw [List.length_append]
    omega
  | some start =>
    obtain ⟨-, -, -, inside⟩ := exists_of_suffixStart? found
    dsimp only
    rw [List.length_append, List.length_take]
    omega

theorem noSlash_replaceSuffix {suffix : List Char} (noSlash : '/' ∉ name)
    (noSlash' : '/' ∉ suffix) : '/' ∉ replaceSuffix suffix name := by
  rw [replaceSuffix]
  cases suffixStart? name with
  | none =>
    intro there
    rcases List.mem_append.mp there with front | back
    · exact noSlash front
    · exact noSlash' back
  | some start =>
    intro there
    rcases List.mem_append.mp there with front | back
    · exact noSlash (List.mem_of_mem_take front)
    · exact noSlash' back

/-- One suffix is replaced by two, so that the name cannot be what it was. -/
theorem replaceSuffix_append_ne (first second : List Char) :
    replaceSuffix ('.' :: first) name ++ '.' :: second ≠ name := by
  intro same
  rw [replaceSuffix] at same
  cases found : suffixStart? name with
  | none =>
    rw [found] at same
    have size := congrArg List.length same
    simp only [List.length_append, List.length_cons] at size
    omega
  | some start =>
    obtain ⟨tail, behind, noDot, -⟩ := exists_of_suffixStart? found
    rw [found] at same
    dsimp only at same
    have whole := List.take_append_drop start name
    rw [List.append_assoc] at same
    have doubled := List.append_cancel_left (same.trans whole.symm)
    rw [behind, List.cons_append] at doubled
    apply noDot
    rw [← (List.cons.inj doubled).2]
    exact List.mem_append_right first List.mem_cons_self

end Suffix

end TapeMachine.Path
