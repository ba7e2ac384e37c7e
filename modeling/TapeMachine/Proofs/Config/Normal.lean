import TapeMachine.Proofs.Config.Settings
import TapeMachine.Proofs.Value

/-!
Configurations in normal form. Main statement: the entries of a loaded configuration are those of
the mapping it comes from, with the three settings filled in and turned into values of their own
types. Loading these entries gives the same configuration, as does a mapping with a default written
out; and the order of a mapping does not matter.
-/

set_option autoImplicit false

namespace TapeMachine

namespace Config

open Value (Entries)

/-- What a configuration says where nothing else is asked for. -/
def defaults : Entries :=
  [(.str cellsKey, .int defaultCells), (.str limitKey, .int defaultLimit),
    (.str lenientKey, .bool false)]

/-- The keys of the three settings. -/
def settingKeys : List Value := defaults.map Prod.fst

/--
Entries that other entries stand for: each setting has a value of its own type and in its bounds,
the one that it is given or its default turned into this type, and nothing else is new or changed.
-/
structure Normalizes (given normal : Entries) : Prop where
  keys : ∀ key, key ∈ normal.map Prod.fst ↔ key ∈ settingKeys ∨ key ∈ given.map Prod.fst
  distinct : normal.Distinct
  kept : ∀ key v, key ∉ settingKeys → ((key, v) ∈ normal ↔ (key, v) ∈ given)
  cells : ∃ n : Int, normal.get? cellsKey = some (.int n) ∧ 1 ≤ n ∧
    (setting cellsKey (.int defaultCells) given).toInt = .ok n
  limit :
    normal.get? limitKey = some .null ∧ setting limitKey (.int defaultLimit) given = .null ∨
    ∃ n : Int, normal.get? limitKey = some (.int n) ∧ 0 ≤ n ∧
      (setting limitKey (.int defaultLimit) given).toInt = .ok n
  lenient : normal.get? lenientKey =
    some (.bool (setting lenientKey (.bool false) given).isTruthy)

variable {entries entries' : Entries} {c : Config} {d d' : Directory} {v : Value}

section Made

private theorem isSetting_iff {key : Value} : isSetting key = true ↔ key ∈ settingKeys := by
  simp [isSetting, settingKeys, defaults, Value.sameKey_str_iff]

/-- The entries that say nothing about a run. -/
def foreign (entries : Entries) : Entries := entries.filter fun entry => !isSetting entry.1

private theorem mem_foreign_iff {entry : Value × Value} :
    entry ∈ foreign entries ↔ entry ∈ entries ∧ entry.1 ∉ settingKeys := by
  rw [foreign, List.mem_filter, Bool.not_eq_true', ← Bool.not_eq_true, isSetting_iff]

private theorem limit_eq_ok_iff {steps : Option Int} : limit v = .ok steps ↔
    v = .null ∧ steps = none ∨ ∃ n, v.toInt = .ok n ∧ steps = some n := by
  cases v with
  | null =>
    have refused (n : Int) : Value.null.toInt ≠ .ok n := by
      intro same
      contradiction
    simp [limit, refused, eq_comm]
  | _ =>
    rw [limit]
    · simp only [map_eq_ok_iff, number_eq_ok_iff, reduceCtorEq, false_and, false_or]
      exact exists_congr fun n => and_congr_right fun _ => eq_comm
    · intro same
      contradiction

private theorem make_eq_ok_iff {cells : Int} {steps : Option Int} {lenient : Bool}
    {others : Entries} :
    make cells steps lenient others = .ok c ↔
      cells = c.memoryCells ∧ steps = c.stepLimit.map Int.ofNat ∧ lenient = c.lenientLog ∧
        others = c.others := by
  constructor
  · intro made
    rw [make] at made
    split at made
    · next positive =>
      split at made
      · contradiction
      · next bounded =>
        obtain rfl := Except.ok.inj made
        have natural : 0 ≤ cells := by omega
        refine ⟨(Int.toNat_of_nonneg natural).symm, ?_, rfl, rfl⟩
        cases steps with
        | none => rfl
        | some n =>
          have nonneg : 0 ≤ n := by simpa using bounded
          simp [Int.toNat_of_nonneg nonneg]
    · contradiction
  · rintro ⟨rfl, rfl, rfl, rfl⟩
    obtain ⟨cells, positive, steps, lenient, others⟩ := c
    cases steps <;> simp [make, positive]

/-- When entries are a configuration, and which one. -/
theorem ofEntries_eq_ok_iff : ofEntries entries = .ok c ↔
    (setting cellsKey (.int defaultCells) entries).toInt = .ok (c.memoryCells : Int) ∧
    limit (setting limitKey (.int defaultLimit) entries) = .ok (c.stepLimit.map Int.ofNat) ∧
    (setting lenientKey (.bool false) entries).isTruthy = c.lenientLog ∧
    foreign entries = c.others := by
  simp only [ofEntries, bind_eq_ok_iff, number_eq_ok_iff, make_eq_ok_iff]
  constructor
  · rintro ⟨_, cells, _, steps, rfl, rfl, lenient, others⟩
    exact ⟨cells, steps, lenient, others⟩
  · rintro ⟨cells, steps, lenient, others⟩
    exact ⟨_, cells, _, steps, rfl, rfl, lenient, others⟩

end Made

section Written

/-- The step limit as it is written: nothing for none. -/
def limitValue (c : Config) : Value :=
  match c.stepLimit with
  | some n => .int n
  | none => .null

private theorem get?_toEntries (c : Config) :
    c.toEntries.get? cellsKey = some (.int c.memoryCells) ∧
    c.toEntries.get? limitKey = some c.limitValue ∧
    c.toEntries.get? lenientKey = some (.bool c.lenientLog) := by
  have first : Value.str cellsKey ≠ .str limitKey := by decide
  have second : Value.str cellsKey ≠ .str lenientKey := by decide
  have third : Value.str limitKey ≠ .str lenientKey := by decide
  refine ⟨?_, ?_, ?_⟩
  · rw [toEntries, Entries.get?_cons, if_pos rfl]
  · rw [toEntries, Entries.get?_cons, if_neg first, Entries.get?_cons, if_pos rfl]
    rfl
  · rw [toEntries, Entries.get?_cons, if_neg second, Entries.get?_cons, if_neg third,
      Entries.get?_cons, if_pos rfl]

private theorem map_fst_toEntries (c : Config) :
    c.toEntries.map Prod.fst = settingKeys ++ c.others.map Prod.fst := rfl

private theorem limit_limitValue (c : Config) :
    limit c.limitValue = .ok (c.stepLimit.map Int.ofNat) := by
  rw [limit_eq_ok_iff, limitValue]
  cases c.stepLimit with
  | none => exact .inl ⟨rfl, rfl⟩
  | some n => exact .inr ⟨n, rfl, rfl⟩

private theorem foreign_cons_of_mem {key : Value} (known : key ∈ settingKeys) :
    foreign ((key, v) :: entries) = foreign entries := by
  have dropped : ¬ (!isSetting key) = true := by
    rw [Bool.not_eq_true', ← Bool.not_eq_true, not_not, isSetting_iff]
    exact known
  exact List.filter_cons_of_neg dropped

private theorem foreign_toEntries (c : Config) : foreign c.toEntries = foreign c.others := by
  rw [toEntries, foreign_cons_of_mem, foreign_cons_of_mem, foreign_cons_of_mem]
  all_goals decide

theorem ofEntries_toEntries (beside : foreign c.others = c.others) :
    ofEntries c.toEntries = .ok c := by
  obtain ⟨cells, steps, lenient⟩ := get?_toEntries c
  rw [ofEntries_eq_ok_iff]
  simp only [setting, cells, steps, lenient, Option.getD_some]
  exact ⟨rfl, limit_limitValue c, rfl, (foreign_toEntries c).trans beside⟩

private theorem foreign_foreign (entries : Entries) :
    foreign (foreign entries) = foreign entries := by
  simp [foreign]

end Written

section Loaded

private theorem ofEntries_nil : ofEntries [] = .ok initial := rfl

private theorem load_map_eq_ok_iff : load d (.map entries) = .ok c ↔ ofEntries entries = .ok c :=
  mapError_eq_ok_iff

private theorem exists_gives_of_ofFile {shown : String} (named : pathOf? v = some shown)
    (loaded : ofFile d shown = .ok c) :
    ∃ entries, Gives d v entries ∧ ofEntries entries = .ok c := by
  rw [ofFile_eq] at loaded
  split at loaded
  · contradiction
  · contradiction
  · split at loaded
    · contradiction
    · next bytes found =>
      split at loaded
      · contradiction
      · next document parsed =>
        by_cases blank : document.value.Blank
        · rw [ofDocument_blank blank] at loaded
          obtain rfl := Except.ok.inj loaded
          exact ⟨[], .file named found parsed (.inr ⟨blank, rfl⟩), ofEntries_nil⟩
        · by_cases mapping : document.value.IsMapping
          · obtain ⟨entries, holds⟩ := mapping
            rw [holds, ofDocument_map, mapError_eq_ok_iff] at loaded
            exact ⟨entries, .file named found parsed (.inl holds), loaded⟩
          · rw [ofDocument_other blank mapping] at loaded
            contradiction

theorem exists_gives_of_load (loaded : load d v = .ok c) :
    ∃ entries, Gives d v entries ∧ ofEntries entries = .ok c := by
  cases v with
  | null => exact ⟨[], .nothing, (load_map_eq_ok_iff (d := d)).mp loaded⟩
  | map entries => exact ⟨entries, .mapping entries, load_map_eq_ok_iff.mp loaded⟩
  | str path => exact exists_gives_of_ofFile rfl loaded
  | path path => exact exists_gives_of_ofFile rfl loaded
  | _ => contradiction

/-- What has been loaded once, be it from a file, is loaded a second time as it is. -/
theorem load_toEntries (loaded : load d v = .ok c) (d' : Directory) :
    load d' (.map c.toEntries) = .ok c := by
  obtain ⟨entries, -, made⟩ := exists_gives_of_load loaded
  obtain ⟨-, -, -, others⟩ := ofEntries_eq_ok_iff.mp made
  rw [load_map_eq_ok_iff]
  apply ofEntries_toEntries
  rw [← others, foreign_foreign]

end Loaded

section Normalizes

variable (made : ofEntries entries = .ok c)

include made

private theorem others_eq_foreign : c.others = foreign entries := by
  obtain ⟨-, -, -, others⟩ := ofEntries_eq_ok_iff.mp made
  exact others.symm

private theorem normalizes_of_ofEntries (distinct : entries.Distinct) :
    Normalizes entries c.toEntries := by
  have others := others_eq_foreign made
  obtain ⟨cells, steps, lenient, -⟩ := ofEntries_eq_ok_iff.mp made
  obtain ⟨cells', steps', lenient'⟩ := get?_toEntries c
  constructor
  case keys =>
    intro key
    rw [map_fst_toEntries, List.mem_append, others]
    by_cases known : key ∈ settingKeys
    · exact iff_of_true (.inl known) (.inl known)
    · rw [or_iff_right known, or_iff_right known, List.mem_map, List.mem_map]
      constructor
      · rintro ⟨entry, there, rfl⟩
        exact ⟨entry, (mem_foreign_iff.mp there).1, rfl⟩
      · rintro ⟨entry, there, rfl⟩
        exact ⟨entry, mem_foreign_iff.mpr ⟨there, known⟩, rfl⟩
  case distinct =>
    rw [toEntries, others]
    have apart {name : String} (setting : .str name ∈ settingKeys) :
        ∀ entry ∈ foreign entries, Value.sameKey (.str name) entry.1 = false := by
      intro entry there
      rw [← Bool.not_eq_true, Value.sameKey_of_str_iff]
      intro same
      exact (mem_foreign_iff.mp there).2 (same ▸ setting)
    have beside : (foreign entries).Distinct := distinct.filter _
    rw [Entries.Distinct, List.pairwise_cons, List.pairwise_cons, List.pairwise_cons,
      List.forall_mem_cons, List.forall_mem_cons, List.forall_mem_cons]
    have first : Value.sameKey (.str cellsKey) (.str limitKey) = false := by decide
    have second : Value.sameKey (.str cellsKey) (.str lenientKey) = false := by decide
    have third : Value.sameKey (.str limitKey) (.str lenientKey) = false := by decide
    exact ⟨⟨first, second, apart (by decide)⟩, ⟨third, apart (by decide)⟩, apart (by decide),
      beside⟩
  case kept =>
    intro key v other
    have ne {name : String} (setting : .str name ∈ settingKeys) (w : Value) :
        (key, v) ≠ (.str name, w) := by
      intro same
      exact other ((Prod.mk.inj same).1 ▸ setting)
    rw [toEntries, List.mem_cons, List.mem_cons, List.mem_cons, or_iff_right (ne (by decide) _),
      or_iff_right (ne (by decide) _), or_iff_right (ne (by decide) _), others, mem_foreign_iff,
      and_iff_left other]
  case cells =>
    have positive := c.memoryCells_pos
    exact ⟨c.memoryCells, cells', by omega, cells⟩
  case limit =>
    rw [steps', limitValue]
    rcases limit_eq_ok_iff.mp steps with ⟨nothing, unlimited⟩ | ⟨n, read, limited⟩
    · rw [Option.map_eq_none_iff] at unlimited
      rw [unlimited]
      exact .inl ⟨rfl, nothing⟩
    · obtain ⟨k, known, rfl⟩ := Option.map_eq_some_iff.mp limited
      rw [known]
      exact .inr ⟨k, rfl, Int.natCast_nonneg k, read⟩
  case lenient => rw [lenient', lenient]

end Normalizes

section Alike

private theorem distinct_defaults : Entries.Distinct defaults := by
  decide +kernel

private theorem setting_put_default {key key' : String} {default default' : Value}
    (known : (.str key, default) ∈ defaults) (known' : (.str key', default') ∈ defaults)
    (missing : .str key ∉ entries.map Prod.fst) :
    setting key' default' (Entries.put (.str key) default entries) =
      setting key' default' entries := by
  by_cases same : key' = key
  · subst same
    have distinct : Entries.Distinct defaults := distinct_defaults
    rw [setting, setting, Entries.get?_put_self, Entries.get?_eq_none_iff.mpr missing]
    exact distinct.value_unique known known'
  · rw [setting, setting, Entries.get?_put_of_ne same]

private theorem foreign_put {key : String} (known : .str key ∈ settingKeys) :
    foreign (Entries.put (.str key) v entries) = foreign entries := by
  apply Entries.filter_put
  intro u
  rw [Bool.not_eq_false', isSetting_iff]
  exact known

private theorem ofEntries_put_default {key : String} {default : Value}
    (known : (.str key, default) ∈ defaults) (missing : .str key ∉ entries.map Prod.fst)
    (made : ofEntries entries = .ok c) :
    ofEntries (Entries.put (.str key) default entries) = .ok c := by
  have cells : (.str cellsKey, .int defaultCells) ∈ defaults := by decide +kernel
  have steps : (.str limitKey, .int defaultLimit) ∈ defaults := by decide +kernel
  have lenient : (.str lenientKey, .bool false) ∈ defaults := by decide +kernel
  rw [ofEntries_eq_ok_iff] at made ⊢
  rw [setting_put_default known cells missing, setting_put_default known steps missing,
    setting_put_default known lenient missing, foreign_put (List.mem_map_of_mem known)]
  exact made

theorem ofEntries_perm (distinct : entries.Distinct) (perm : entries'.Perm entries)
    (made : ofEntries entries = .ok c) :
    ∃ c', ofEntries entries' = .ok c' ∧ c'.toEntries.Perm c.toEntries := by
  have beside : (foreign entries').Perm (foreign entries) := perm.filter _
  obtain ⟨cells, steps, lenient, others⟩ := ofEntries_eq_ok_iff.mp made
  refine ⟨{ c with others := foreign entries' }, ?_, ?_⟩
  · rw [ofEntries_eq_ok_iff]
    simp only [setting, distinct.get?_perm perm]
    exact ⟨cells, steps, lenient, trivial⟩
  · rw [others] at beside
    exact ((beside.cons _).cons _).cons _

end Alike

/--
Of every mapping that a configuration can be loaded from, the entries of this configuration are the
normal form: they hold its keys and the settings, the settings have values of their own types, and
nothing else changes. They are loaded as they are, and so is the mapping with any missing default
written out. In another order the mapping gives the same entries, up to their order.
-/
theorem load_normalizes (distinct : entries.Distinct) (loaded : load d (.map entries) = .ok c) :
    Normalizes entries c.toEntries ∧
    (∀ d', load d' (.map c.toEntries) = .ok c) ∧
    (∀ key default, (.str key, default) ∈ defaults → .str key ∉ entries.map Prod.fst →
      load d (.map (Entries.put (.str key) default entries)) = .ok c) ∧
    (∀ entries' : Entries, entries'.Perm entries →
      ∃ c', load d (.map entries') = .ok c' ∧ c'.toEntries.Perm c.toEntries) := by
  have made := load_map_eq_ok_iff.mp loaded
  refine ⟨normalizes_of_ofEntries made distinct, load_toEntries loaded, ?_, ?_⟩
  · intro key default known missing
    exact load_map_eq_ok_iff.mpr (ofEntries_put_default known missing made)
  · intro entries' perm
    obtain ⟨c', made', same⟩ := ofEntries_perm distinct perm made
    exact ⟨c', load_map_eq_ok_iff.mpr made', same⟩

theorem load_normalizes_numeral :
    let asked : Entries :=
      [(.str "note", .list [.null]), (.str "memory_cells", .str " 1_2\n"), (.int 7, .null),
        (.str "lenient_log", .bytes [0])]
    let c : Config :=
      ⟨12, by decide, some 100000, true, [(.str "note", .list [.null]), (.int 7, .null)]⟩
    Entries.Distinct asked ∧ load ⟨[]⟩ (.map asked) = .ok c ∧ Normalizes asked c.toEntries ∧
    load ⟨[]⟩ (.map c.toEntries) = .ok c ∧
    load ⟨[]⟩ (.map (Entries.put (.str "step_limit") (.int 100000) asked)) = .ok c ∧
    ∃ c', load ⟨[]⟩ (.map asked.reverse) = .ok c' ∧ c'.toEntries.Perm c.toEntries := by
  intro asked c
  have distinct : Entries.Distinct asked := by decide +kernel
  have loaded : load ⟨[]⟩ (.map asked) = .ok c := by
    rw [load_map_eq_ok_iff, ofEntries_eq_ok_iff]
    decide +kernel
  obtain ⟨normal, again, written, reordered⟩ := load_normalizes distinct loaded
  have default : (.str "step_limit", .int 100000) ∈ defaults := by decide +kernel
  have missing : .str "step_limit" ∉ asked.map Prod.fst := by decide +kernel
  exact ⟨distinct, loaded, normal, again ⟨[]⟩, written _ _ default missing,
    reordered asked.reverse asked.reverse_perm⟩

end Config

end TapeMachine
