import Mathlib.Data.List.Nodup
import TapeMachine.Value

set_option autoImplicit false

namespace TapeMachine.Value

section Equality

mutual

/-- Whether two values are one and the same, their types included. -/
def isSame : Value → Value → Bool
  | null, null => true
  | bool a, bool b => a = b
  | int a, int b => a = b
  | float a, float b => a = b
  | str a, str b => a = b
  | bytes a, bytes b => a = b
  | list a, list b => areSame a b
  | map a, map b => areSameEntries a b
  | set a, set b => areSame a b
  | pair a b, pair c d => isSame a c && isSame b d
  | date a, date b => a = b
  | timestamp a, timestamp b => a = b
  | path a, path b => a = b
  | _, _ => false

def areSame : List Value → List Value → Bool
  | [], [] => true
  | v :: rest, w :: others => isSame v w && areSame rest others
  | _, _ => false

def areSameEntries : List (Value × Value) → List (Value × Value) → Bool
  | [], [] => true
  | (k, v) :: rest, (l, w) :: others => isSame k l && isSame v w && areSameEntries rest others
  | _, _ => false

end

mutual

private theorem isSame_self : ∀ v : Value, isSame v v = true
  | null => rfl
  | bool _ | int _ | float _ | str _ | bytes _ | date _ | timestamp _ | path _ => by simp [isSame]
  | list items => areSame_self items
  | map entries => areSameEntries_self entries
  | set items => areSame_self items
  | pair first second => by simp [isSame, isSame_self first, isSame_self second]

private theorem areSame_self : ∀ items : List Value, areSame items items = true
  | [] => rfl
  | v :: rest => by simp [areSame, isSame_self v, areSame_self rest]

private theorem areSameEntries_self : ∀ entries : List (Value × Value),
    areSameEntries entries entries = true
  | [] => rfl
  | (k, v) :: rest => by
    simp [areSameEntries, isSame_self k, isSame_self v, areSameEntries_self rest]

end

theorem eq_of_isSame {v w : Value} : isSame v w = true → v = w := by
  induction v, w using isSame.induct
    (motive_2 := fun entries others => areSameEntries entries others = true → entries = others)
    (motive_3 := fun items others => areSame items others = true → items = others)
  all_goals grind [isSame, areSame, areSameEntries]

theorem isSame_iff {v w : Value} : isSame v w = true ↔ v = w := by
  constructor
  · exact eq_of_isSame
  · rintro rfl
    exact isSame_self v

instance : DecidableEq Value := fun _ _ => decidable_of_iff _ isSame_iff

end Equality

theorem sameKey_str_iff {key : Value} {name : String} :
    key.sameKey (.str name) = true ↔ key = .str name := by
  cases key <;> simp [sameKey, integral?]

theorem sameKey_of_str_iff {name : String} {key : Value} :
    sameKey (.str name) key = true ↔ key = .str name := by
  cases key with
  | str text => simp [sameKey, eq_comm (a := name)]
  | _ => simp [sameKey, integral?]

namespace Entries

variable {name other : String} {names : List String} {key v w : Value}
  {entries old mid new pairs : Entries}

section Put

theorem get?_cons : get? name ((key, v) :: entries) =
    if key = .str name then some v else entries.get? name := by
  rw [get?, List.find?_cons]
  by_cases same : key = .str name
  · rw [sameKey_str_iff.mpr same, if_pos same]
    rfl
  · have differs : key.sameKey (.str name) = false := by
      rwa [← sameKey_str_iff, Bool.not_eq_true] at same
    rw [differs, if_neg same]
    rfl

private theorem put_cons : put (.str name) v ((key, w) :: entries) =
    if key = .str name then (key, v) :: entries else (key, w) :: put (.str name) v entries := by
  rw [put]
  exact if_congr sameKey_str_iff rfl rfl

theorem get?_put_self (name : String) (v : Value) (entries : Entries) :
    (put (.str name) v entries).get? name = some v := by
  induction entries with
  | nil =>
    rw [put, get?_cons]
    exact if_pos rfl
  | cons entry rest ih =>
    rw [put_cons]
    split
    · next same => rw [get?_cons, if_pos same]
    · next differs => rw [get?_cons, if_neg differs, ih]

theorem get?_put_of_ne (ne : other ≠ name) :
    (put (.str name) v entries).get? other = entries.get? other := by
  have keys : Value.str name ≠ .str other := fun same => ne (Value.str.inj same).symm
  induction entries with
  | nil =>
    rw [put, get?_cons]
    exact if_neg keys
  | cons entry rest ih =>
    obtain ⟨key, w⟩ := entry
    rw [put_cons]
    split
    · next same =>
      subst same
      rw [get?_cons, if_neg keys, get?_cons, if_neg keys]
    · rw [get?_cons, get?_cons, ih]

theorem put_eq_self (there : entries.get? name = some v) : put (.str name) v entries = entries := by
  induction entries with
  | nil => contradiction
  | cons entry rest ih =>
    rw [get?_cons] at there
    rw [put_cons]
    split at there
    · next same =>
      rw [if_pos same]
      obtain rfl := Option.some.inj there
      rfl
    · next differs => rw [if_neg differs, ih there]

theorem filter_put {p : Value × Value → Bool} (dropped : ∀ u, p (.str name, u) = false) :
    (put (.str name) v entries).filter p = entries.filter p := by
  induction entries with
  | nil => rw [put, List.filter_cons, dropped, if_neg Bool.false_ne_true]
  | cons entry rest ih =>
    obtain ⟨key, w⟩ := entry
    rw [put_cons]
    split
    · next same =>
      subst same
      rw [List.filter_cons, List.filter_cons, dropped, dropped, if_neg Bool.false_ne_true,
        if_neg Bool.false_ne_true]
    · rw [List.filter_cons, List.filter_cons, ih]

end Put

section Distinct

variable {entries' : Entries}

/-- Whether no key comes twice, as is the case in every mapping. -/
def Distinct (entries : Entries) : Prop := entries.Pairwise fun a b => a.1.sameKey b.1 = false

instance (entries : Entries) : Decidable entries.Distinct :=
  inferInstanceAs (Decidable (entries.Pairwise fun a b => a.1.sameKey b.1 = false))

theorem get?_eq_none_iff : entries.get? name = none ↔ .str name ∉ entries.map Prod.fst := by
  induction entries with
  | nil => simp [get?]
  | cons entry rest ih =>
    obtain ⟨key, v⟩ := entry
    rw [get?_cons, List.map_cons, List.mem_cons, not_or]
    split
    · next same => exact iff_of_false (fun found => nomatch found) fun absent => absent.1 same.symm
    · next differs => rw [ih, and_iff_right fun same => differs same.symm]

private theorem mem_of_get? (found : entries.get? name = some v) : (.str name, v) ∈ entries := by
  induction entries with
  | nil => contradiction
  | cons entry rest ih =>
    obtain ⟨key, w⟩ := entry
    rw [get?_cons] at found
    split at found
    · next same =>
      obtain rfl := Option.some.inj found
      rw [same]
      exact List.mem_cons_self
    · exact List.mem_cons_of_mem _ (ih found)

theorem Distinct.value_unique (distinct : entries.Distinct) (first : (.str name, v) ∈ entries)
    (second : (.str name, w) ∈ entries) : v = w := by
  induction entries with
  | nil => contradiction
  | cons entry rest ih =>
    obtain ⟨apart, others⟩ := List.pairwise_cons.mp distinct
    have alone (u : Value) (here : entry.1 = .str name) : (.str name, u) ∉ rest := by
      intro later
      have differs := apart _ later
      rw [here, sameKey_str_iff.mpr rfl] at differs
      contradiction
    rcases List.mem_cons.mp first with rfl | first'
    · rcases List.mem_cons.mp second with same | second'
      · exact (Prod.mk.inj same).2.symm
      · exact absurd second' (alone w rfl)
    · rcases List.mem_cons.mp second with rfl | second'
      · exact absurd first' (alone v rfl)
      · exact ih others first' second'

theorem Distinct.get?_eq_some_iff (distinct : entries.Distinct) :
    entries.get? name = some v ↔ (.str name, v) ∈ entries := by
  refine ⟨mem_of_get?, fun there => ?_⟩
  cases found : entries.get? name with
  | none => exact absurd (List.mem_map_of_mem there) (get?_eq_none_iff.mp found)
  | some w => rw [distinct.value_unique there (mem_of_get? found)]

/-- What is found under a text does not depend on the order of the entries. -/
theorem Distinct.get?_perm (distinct : entries.Distinct) (perm : entries'.Perm entries) :
    entries'.get? name = entries.get? name := by
  cases found : entries'.get? name with
  | none =>
    rw [get?_eq_none_iff, (perm.map Prod.fst).mem_iff] at found
    exact (get?_eq_none_iff.mpr found).symm
  | some v => exact (distinct.get?_eq_some_iff.mpr (perm.mem_iff.mp (mem_of_get? found))).symm

end Distinct

/-- Only entries under some texts are new or changed; the others stay as and where they were. -/
structure Keeps (names : List String) (old new : Entries) : Prop where
  /-- Every key keeps its place, and new keys come last. -/
  keys : ∃ added : List String, added ⊆ names ∧
    new.map Prod.fst = old.map Prod.fst ++ added.map Value.str
  /-- What is under other keys stays there. -/
  values : ∀ (i : Nat) (key v : Value), (∀ name ∈ names, key ≠ .str name) →
    old[i]? = some (key, v) → new[i]? = some (key, v)

private theorem Keeps.refl (names : List String) (entries : Entries) :
    Keeps names entries entries where
  keys := ⟨[], List.nil_subset names, (List.append_nil _).symm⟩
  values := fun _ _ _ _ there => there

private theorem Keeps.trans (first : Keeps names old mid) (second : Keeps names mid new) :
    Keeps names old new where
  keys := by
    obtain ⟨added, known, keys⟩ := first.keys
    obtain ⟨added', known', keys'⟩ := second.keys
    refine ⟨added ++ added', List.append_subset.mpr ⟨known, known'⟩, ?_⟩
    rw [keys', keys, List.map_append, List.append_assoc]
  values := fun i key v others there =>
    second.values i key v others (first.values i key v others there)

theorem keeps_put (named : name ∈ names) (v : Value) (entries : Entries) :
    Keeps names entries (put (.str name) v entries) := by
  induction entries with
  | nil => exact ⟨⟨[name], by simpa using named, rfl⟩, fun i key v others there => by simp at there⟩
  | cons entry rest ih =>
    obtain ⟨k, w⟩ := entry
    rw [put_cons]
    split
    · next same =>
      refine ⟨⟨[], List.nil_subset names, (List.append_nil _).symm⟩, fun i key v others there => ?_⟩
      cases i with
      | zero =>
        obtain ⟨rfl, -⟩ := Prod.mk.inj (Option.some.inj there)
        exact absurd same (others name named)
      | succ i => exact there
    · obtain ⟨added, known, keys⟩ := ih.keys
      refine ⟨⟨added, known, congrArg (k :: ·) keys⟩, fun i key v others there => ?_⟩
      cases i with
      | zero => exact there
      | succ i => exact ih.values i key v others there

section PutAll

/-- Put in pairs one after the other. -/
def putAll (pairs entries : Entries) : Entries :=
  pairs.foldl (fun kept entry => put entry.1 entry.2 kept) entries

private theorem putAll_eq_self
    (there : ∀ entry ∈ pairs, ∃ name, entry.1 = .str name ∧ entries.get? name = some entry.2) :
    putAll pairs entries = entries := by
  induction pairs with
  | nil => rfl
  | cons pair rest ih =>
    obtain ⟨name, same, found⟩ := there pair List.mem_cons_self
    rw [putAll, List.foldl_cons, same, put_eq_self found, ← putAll]
    exact ih fun entry later => there entry (List.mem_cons_of_mem _ later)

variable (named : ∀ entry ∈ pairs, ∃ name ∈ names, entry.1 = .str name)

include named

theorem keeps_putAll (entries : Entries) : Keeps names entries (putAll pairs entries) := by
  induction pairs generalizing entries with
  | nil => exact .refl names entries
  | cons pair rest ih =>
    obtain ⟨name, known, same⟩ := named pair List.mem_cons_self
    have first := keeps_put known pair.2 entries
    rw [← same] at first
    exact first.trans (ih (fun entry there => named entry (List.mem_cons_of_mem _ there)) _)

private theorem get?_putAll_of_notMem (others : .str other ∉ pairs.map Prod.fst)
    (entries : Entries) :
    (putAll pairs entries).get? other = entries.get? other := by
  induction pairs generalizing entries with
  | nil => rfl
  | cons pair rest ih =>
    obtain ⟨name, -, same⟩ := named pair List.mem_cons_self
    rw [List.map_cons, List.mem_cons, not_or, same] at others
    have ne : other ≠ name := fun equal => others.1 (congrArg Value.str equal)
    rw [putAll, List.foldl_cons, same, ← putAll,
      ih (fun entry there => named entry (List.mem_cons_of_mem _ there)) others.2,
      get?_put_of_ne ne]

theorem get?_putAll (distinct : (pairs.map Prod.fst).Nodup) (there : (.str name, v) ∈ pairs)
    (entries : Entries) : (putAll pairs entries).get? name = some v := by
  induction pairs generalizing entries with
  | nil => simp at there
  | cons pair rest ih =>
    have named' := fun entry there => named entry (List.mem_cons_of_mem pair there)
    rw [List.map_cons, List.nodup_cons] at distinct
    rw [putAll, List.foldl_cons, ← putAll]
    rcases List.mem_cons.mp there with rfl | later
    · rw [get?_putAll_of_notMem named' distinct.1, get?_put_self]
    · exact ih named' distinct.2 later _

theorem putAll_putAll (distinct : (pairs.map Prod.fst).Nodup) (entries : Entries) :
    putAll pairs (putAll pairs entries) = putAll pairs entries := by
  refine putAll_eq_self fun entry listed => ?_
  obtain ⟨name, -, same⟩ := named entry listed
  refine ⟨name, same, get?_putAll named distinct ?_ entries⟩
  rw [← same]
  exact listed

end PutAll

end Entries

end TapeMachine.Value
