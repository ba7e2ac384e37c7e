import TapeMachine.Proofs.Failing
import TapeMachine.Workspace

set_option autoImplicit false

namespace TapeMachine.Activity

variable {α β ε : Type} {w w' : Workspace}

theorem run_pure (a : α) (w : Workspace) : (pure a : Activity α).run w = (.ok a, w) := rfl

theorem run_bind (first : Activity α) (second : α → Activity β) (w : Workspace) :
    (first >>= second).run w = match first.run w with
      | (.ok a, next) => (second a).run next
      | (.error failure, next) => (.error failure, next) := by
  simp only [ExceptT.run, bind, ExceptT.bind, ExceptT.mk, ExceptT.bindCont, StateT.bind]
  obtain ⟨result, next⟩ := first w
  cases result <;> rfl

theorem run_ofExcept (failure : ε → Failure) (result : Except ε α) (w : Workspace) :
    (ofExcept failure result).run w = (result.mapError failure, w) := by
  cases result <;> rfl

theorem run_files (w : Workspace) : files.run w = (.ok w.directory, w) := rfl

theorem run_fileExists (path : String) (w : Workspace) :
    (fileExists path).run w = ((w.directory.exists? path).mapError .file, w) := by
  rw [fileExists, run_bind, run_files]
  exact run_ofExcept _ _ w

theorem run_readFile (path : String) (w : Workspace) :
    (readFile path).run w = ((w.directory.read path).mapError .file, w) := by
  rw [readFile, run_bind, run_files]
  exact run_ofExcept _ _ w

theorem run_readText {path : String} {bytes : List UInt8} {text : List Char}
    (found : w.directory.read path = .ok bytes) (readable : Text.Utf8.decode bytes = .ok text) :
    (readText path).run w = (.ok (String.ofList (Text.unifyBreaks text)), w) := by
  rw [readText, run_bind, run_readFile, found]
  simp only [mapError_ok, run_bind, run_ofExcept, readable]
  rfl

theorem run_writeFile (path : String) (bytes : List UInt8) (w : Workspace) :
    (writeFile path bytes).run w = match w.directory.write path bytes with
      | .ok directory => (.ok (), { w with directory := directory })
      | .error fault => (.error (.file fault), w) := by
  rw [writeFile, run_bind, run_files]
  simp only [run_bind, run_ofExcept]
  cases w.directory.write path bytes <;> rfl

theorem run_writeText (path text : String) (w : Workspace) :
    (writeText path text).run w = match w.directory.write path (Text.Utf8.ofString text) with
      | .ok directory => (.ok (), { w with directory := directory })
      | .error fault => (.error (.file fault), w) :=
  run_writeFile path (Text.Utf8.ofString text) w

section Success

theorem run_bind_eq_ok_iff {first : Activity α} {second : α → Activity β} {b : β} :
    (first >>= second).run w = (.ok b, w') ↔
      ∃ a next, first.run w = (.ok a, next) ∧ (second a).run next = (.ok b, w') := by
  rw [run_bind]
  cases ran : first.run w with
  | mk result next =>
    cases result with
    | error failure =>
      exact iff_of_false (fun same => nomatch same) (fun ⟨_, _, same, _⟩ => nomatch same)
    | ok a =>
      constructor
      · intro same
        exact ⟨a, next, rfl, same⟩
      · rintro ⟨_, _, same, later⟩
        cases same
        exact later

theorem run_ofExcept_eq_ok_iff {failure : ε → Failure} {result : Except ε α} {a : α} :
    (ofExcept failure result).run w = (.ok a, w') ↔ result = .ok a ∧ w' = w := by
  rw [run_ofExcept]
  cases result with
  | error cause => exact iff_of_false (fun same => nomatch same) (fun ⟨same, _⟩ => nomatch same)
  | ok b => rw [mapError_ok, Prod.mk.injEq, Except.ok.injEq, Except.ok.injEq, eq_comm (a := w)]

theorem run_readFile_eq_ok_iff {path : String} {bytes : List UInt8} :
    (readFile path).run w = (.ok bytes, w') ↔ w.directory.read path = .ok bytes ∧ w' = w := by
  rw [readFile, run_bind, run_files]
  exact run_ofExcept_eq_ok_iff

theorem run_fileExists_eq_ok_iff {path : String} {there : Bool} :
    (fileExists path).run w = (.ok there, w') ↔
      w.directory.exists? path = .ok there ∧ w' = w := by
  rw [fileExists, run_bind, run_files]
  exact run_ofExcept_eq_ok_iff

theorem run_writeFile_eq_ok_iff {path : String} {bytes : List UInt8} {u : Unit} :
    (writeFile path bytes).run w = (.ok u, w') ↔
      ∃ d, w.directory.write path bytes = .ok d ∧ w' = { w with directory := d } := by
  rw [run_writeFile]
  cases w.directory.write path bytes with
  | error fault => exact iff_of_false (fun same => nomatch same) (fun ⟨_, same, _⟩ => nomatch same)
  | ok d =>
    constructor
    · intro same
      cases same
      exact ⟨d, rfl, rfl⟩
    · rintro ⟨_, same, rfl⟩
      cases same
      rfl

end Success

end TapeMachine.Activity
