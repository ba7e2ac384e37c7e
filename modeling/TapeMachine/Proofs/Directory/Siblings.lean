import TapeMachine.Proofs.Directory
import TapeMachine.Proofs.Path

set_option autoImplicit false

namespace TapeMachine.Directory

variable {d : Directory} {p : Path} {place target : Place} {name other : List Char}

/-- Paths that never lead to the same place. -/
def Apart (first second : String) : Prop :=
  ∀ (d : Directory) (place : Place), d.locate first = .ok place → d.locate second ≠ .ok place

theorem Apart.symm {first second : String} (apart : Apart first second) : Apart second first :=
  fun d place located same => apart d place same located

/-- Where the names of a path begin. -/
def base (root : List Char) : Place := if root = [] then [] else [['/']]

private theorem follow_append (names more : List (List Char)) (start : Place) :
    d.follow (names ++ more) start = (d.follow names start >>= d.follow more) := by
  induction names generalizing start with
  | nil => rfl
  | cons name rest ih =>
    rw [List.cons_append, follow, follow]
    cases d.lookup start with
    | none => rfl
    | some entry =>
      cases entry with
      | file content => rfl
      | folder =>
        dsimp only
        split
        · exact ih start
        · split
          · exact ih (outside start)
          · split
            · rfl
            · exact ih (start ++ [name])

private theorem follow_nil_root (names : List (List Char)) :
    d.follow ([] :: names) [['/']] = d.follow names [['/']] := by
  rw [follow, lookup]
  simp

private theorem eq_of_follow_name (isName : Path.IsName name)
    (found : d.follow [name] place = .ok target) :
    target = if name = ['.', '.'] then outside place else place ++ [name] := by
  have folder := folder_of_follow found
  rw [follow, folder] at found
  dsimp only at found
  rw [if_neg (not_or.mpr ⟨isName.ne_nil, isName.ne_dot⟩)] at found
  split
  · next double =>
    rw [if_pos double] at found
    exact (Except.ok.inj found).symm
  · next single =>
    rw [if_neg single] at found
    split at found
    · contradiction
    · exact (Except.ok.inj found).symm

private theorem outside_ne_append (inside : name ≠ ['.', '.']) (place : Place) :
    outside place ≠ place ++ [name] := by
  rw [outside]
  intro same
  split at same
  · have size := congrArg List.length same
    simp at size
  · split at same
    · have last := List.append_cancel_left same
      exact inside (List.singleton_inj.mp last).symm
    · have size := congrArg List.length same
      simp only [List.length_dropLast, List.length_append, List.length_singleton] at size
      omega

private theorem follow_of_locate (normal : p.Normal) (named : p.names ≠ [])
    (located : d.locate p.text = .ok target) : d.follow p.names (base p.root) = .ok target := by
  obtain ⟨-, -, -, followed⟩ := locate_eq_ok_iff.mp located
  rw [Path.text_of_named named, String.toList_ofList] at followed
  have front := Path.head?_joined_ne_slash normal.names
  have split := Path.splitSlashes_joined normal.names named
  rcases normal.root with root | root | root
  · rw [root, List.nil_append, if_neg front, split] at followed
    rw [root]
    exact followed
  · rw [root, List.singleton_append, List.head?_cons, if_pos rfl, Path.splitSlashes_cons_slash,
      split, follow_nil_root] at followed
    rw [root]
    exact followed
  · rw [root, List.cons_append, List.singleton_append, List.head?_cons, if_pos rfl,
      Path.splitSlashes_cons_slash, Path.splitSlashes_cons_slash, split, follow_nil_root,
      follow_nil_root] at followed
    rw [root]
    exact followed

private theorem exists_follow_of_locate_sibling (normal : p.Normal) (isName : Path.IsName name)
    (located : d.locate (p.sibling name).text = .ok target) :
    ∃ parent, d.follow p.names.dropLast (base p.root) = .ok parent ∧
      target = if name = ['.', '.'] then outside parent else parent ++ [name] := by
  have followed := follow_of_locate (normal.sibling isName) (List.concat_ne_nil name _) located
  rw [Path.sibling] at followed
  dsimp only at followed
  rw [follow_append] at followed
  cases before : d.follow p.names.dropLast (base p.root) with
  | error cause =>
    rw [before] at followed
    contradiction
  | ok parent =>
    rw [before] at followed
    exact ⟨parent, rfl, eq_of_follow_name isName followed⟩

theorem apart_sibling (normal : p.Normal) (isName : Path.IsName name)
    (isName' : Path.IsName other) (inside : other ≠ ['.', '.']) (ne : name ≠ other) :
    Apart (p.sibling name).text (p.sibling other).text := by
  intro d target located located'
  obtain ⟨parent, before, same⟩ := exists_follow_of_locate_sibling normal isName located
  obtain ⟨parent', before', rfl⟩ := exists_follow_of_locate_sibling normal isName' located'
  obtain rfl : parent = parent' := Except.ok.inj (before.symm.trans before')
  rw [if_neg inside] at same
  split at same
  · exact outside_ne_append inside parent same.symm
  · have last := List.append_cancel_left same
    exact ne (List.singleton_inj.mp last).symm

theorem named_of_read {content : List UInt8} (normal : p.Normal)
    (found : d.read p.text = .ok content) : p.names ≠ [] := by
  intro unnamed
  obtain ⟨root, names⟩ := p
  obtain rfl : names = [] := unnamed
  rcases normal.root with same | same | same
  all_goals
    obtain rfl : root = _ := same
    cases found

end TapeMachine.Directory
