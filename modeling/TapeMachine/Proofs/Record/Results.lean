import TapeMachine.Proofs.Config.Settings
import TapeMachine.Proofs.Value
import TapeMachine.Proofs.Workspace
import TapeMachine.Record

set_option autoImplicit false

namespace TapeMachine.Record

variable {d d' : Directory} {entries entries' seen : Value.Entries} {outcome : Outcome}
  {m : Machine}

section Run

theorem run_congr
    (configured : (Config.load d (configOf entries)).map Config.settings =
      (Config.load d' (configOf entries')).map Config.settings)
    (sourced : entries.get? sourceKey = entries'.get? sourceKey)
    (fed : inputOf entries = inputOf entries') :
    run d (.map entries) = run d' (.map entries') := by
  simp only [run, entriesOf, mapError_ok, ok_bind, sourced, fed]
  revert configured
  cases Config.load d (configOf entries) with
  | error failure =>
    cases Config.load d' (configOf entries') with
    | error failure' =>
      intro configured
      cases configured
      rfl
    | ok c' =>
      intro configured
      cases configured
  | ok c =>
    cases Config.load d' (configOf entries') with
    | error failure' =>
      intro configured
      cases configured
    | ok c' =>
      intro configured
      obtain ⟨cells, limit⟩ := Prod.mk.inj (Except.ok.inj configured)
      simp only [ok_bind, cells, limit]

theorem exists_of_run {record : Value} (ran : run d record = .ok (outcome, m)) :
    ∃ (entries : Value.Entries) (source : Value), record = .map entries ∧
      entries.get? sourceKey = some source := by
  cases record with
  | map entries =>
    cases sourced : Value.Entries.get? sourceKey entries with
    | some source => exact ⟨entries, source, rfl, sourced⟩
    | none =>
      simp only [run, entriesOf, mapError_ok, ok_bind, sourced] at ran
      obtain ⟨c, -, ran⟩ := bind_eq_ok_iff.mp ran
      obtain ⟨m, -, ran⟩ := bind_eq_ok_iff.mp ran
      cases ran
  | _ => cases ran

end Run

section Results

/-- The names of what is observed of a run. -/
def observedNames : List String :=
  ["out_stdout", "out_bytes", "pointer", "pc", "steps", "state", "unmatched_loop_ends", "memory"]

private theorem map_fst_observed (outcome : Outcome) (m : Machine) :
    (observed outcome m).map Prod.fst = observedNames.map Value.str := rfl

theorem named_of_mem_observed {entry : Value × Value} (there : entry ∈ observed outcome m) :
    ∃ name ∈ observedNames, entry.1 = .str name := by
  have key := List.mem_map_of_mem (f := Prod.fst) there
  rw [map_fst_observed] at key
  obtain ⟨name, known, same⟩ := List.mem_map.mp key
  exact ⟨name, known, same.symm⟩

theorem exists_mem_observed {name : String} (known : name ∈ observedNames) (outcome : Outcome)
    (m : Machine) : ∃ v, (.str name, v) ∈ observed outcome m := by
  have key : Value.str name ∈ (observed outcome m).map Prod.fst := by
    rw [map_fst_observed]
    exact List.mem_map_of_mem known
  obtain ⟨⟨_, v⟩, listed, rfl⟩ := List.mem_map.mp key
  exact ⟨v, listed⟩

theorem nodup_map_fst_observed (outcome : Outcome) (m : Machine) :
    ((observed outcome m).map Prod.fst).Nodup := by
  have names : observedNames.Nodup := by decide
  rw [map_fst_observed]
  exact names.map fun _ _ => Value.str.inj

theorem withResults_eq_ok_iff : withResults entries seen = .ok entries' ↔
    ∃ fields, (entries.get? resultKey).getD (.map []) = .map fields ∧
      entries' = entries.put (.str resultKey) (.map (Value.Entries.putAll seen fields)) := by
  rw [withResults]
  generalize (entries.get? resultKey).getD (.map []) = target
  cases target with
  | map fields =>
    constructor
    · intro completed
      exact ⟨fields, rfl, (Except.ok.inj completed).symm⟩
    · rintro ⟨_, same, rfl⟩
      cases same
      rfl
  | _ =>
    constructor
    · intro completed
      cases completed
    · rintro ⟨_, same, -⟩
      cases same

theorem withResults_again (completed : withResults entries (observed outcome m) = .ok entries') :
    withResults entries' (observed outcome m) = .ok entries' := by
  obtain ⟨fields, -, rfl⟩ := withResults_eq_ok_iff.mp completed
  refine withResults_eq_ok_iff.mpr ⟨Value.Entries.putAll (observed outcome m) fields, ?_, ?_⟩
  · rw [Value.Entries.get?_put_self]
    rfl
  · rw [Value.Entries.putAll_putAll (fun _ => named_of_mem_observed)
      (nodup_map_fst_observed outcome m), Value.Entries.put_eq_self
      (Value.Entries.get?_put_self _ _ _)]

end Results

end TapeMachine.Record
