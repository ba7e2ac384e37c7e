import Mathlib.Control.Monad.Basic
import TapeMachine.Command.Fill
import TapeMachine.Proofs.Directory
import TapeMachine.Proofs.Workspace

/-!
Filling in record files. Main statement: unless everything succeeds, no file is changed. A record
is run and its results are put together before the file is touched, so only a result that cannot be
written would leave the file empty.
-/

set_option autoImplicit false

namespace TapeMachine.Command

/-- What a record file is to be replaced by: its record with the results of its run. -/
def replacement? (path : String) (d : Directory) : Option Yaml.Written := do
  let bytes ← (d.read path).toOption
  let document ← (Yaml.Document.ofBytes bytes).toOption
  let (outcome, last) ← (Record.run d document.value).toOption
  let (filled, _) ← (Record.filled document (Record.observed outcome last)).toOption
  return filled

/-- How filling in a record file can end. -/
inductive FillEnd (path : String) (w : Workspace) : Except Failure Nat × Workspace → Prop
  | refused {next : Workspace} (same : next.directory = w.directory) : FillEnd path w (.ok 2, next)
  | failed (failure : Failure) : FillEnd path w (.error failure, w)
  /-- The file is empty when it turns out that the document cannot be written. -/
  | spoilt {filled : Yaml.Written} {fault : Yaml.Fault} {next : Workspace}
      (ready : replacement? path w.directory = some filled)
      (unwritable : Yaml.dump filled = .error fault)
      (emptied : w.directory.write path [] = .ok next.directory) :
      FillEnd path w (.error (.document fault), next)
  | written {filled : Yaml.Written} {text : String} {next : Workspace}
      (ready : replacement? path w.directory = some filled)
      (writable : Yaml.dump filled = .ok text)
      (stored : w.directory.write path (Text.Utf8.ofString text) = .ok next.directory) :
      FillEnd path w (.ok 0, next)

variable {path : String} {w : Workspace}

theorem run_writeDocument (path : String) (document : Yaml.Written) (w : Workspace) :
    (writeDocument path document).run w = match w.directory.write path [] with
      | .error fault => (.error (.file fault), w)
      | .ok emptied =>
        match Yaml.dump document with
        | .error fault => (.error (.document fault), { w with directory := emptied })
        | .ok text =>
          match w.directory.write path (Text.Utf8.ofString text) with
          | .error fault => (.error (.file fault), { w with directory := emptied })
          | .ok stored => (.ok (), { w with directory := stored }) := by
  have nothing : Text.Utf8.ofString "" = [] := rfl
  rw [writeDocument, Activity.run_bind, Activity.run_writeText, nothing]
  cases emptied : w.directory.write path [] with
  | error fault => rfl
  | ok d =>
    simp only [Activity.run_bind, Activity.run_ofExcept]
    cases Yaml.dump document with
    | error fault => rfl
    | ok text =>
      obtain ⟨stored, direct, again⟩ := Directory.write_of_write emptied (Text.Utf8.ofString text)
      simp only [mapError_ok, Activity.run_writeText, direct, again]

private theorem fillEnd_fillRecord {bytes : List UInt8} {document : Yaml.Document}
    (found : w.directory.read path = .ok bytes)
    (parsed : Yaml.Document.ofBytes bytes = .ok document) :
    FillEnd path w ((fillRecord path document).run w) := by
  rw [fillRecord, Activity.run_bind, Activity.run_files]
  dsimp only
  cases ran : Record.run w.directory document.value with
  | error failure =>
    cases failure with
    | config fault => exact .refused rfl
    | _ => exact .failed _
  | ok result =>
    obtain ⟨outcome, last⟩ := result
    simp only [Activity.run_bind, Activity.run_ofExcept]
    cases completed : Record.filled document (Record.observed outcome last) with
    | error fault => exact .failed _
    | ok result =>
      obtain ⟨filled, count⟩ := result
      have ready : replacement? path w.directory = some filled := by
        simp only [replacement?, found, Except.toOption, Option.bind_eq_bind, Option.bind_some,
          parsed, ran, completed]
        rfl
      simp only [mapError_ok, run_writeDocument]
      cases emptied : w.directory.write path [] with
      | error fault => exact .failed _
      | ok d =>
        cases writable : Yaml.dump filled with
        | error fault => exact .spoilt ready writable emptied
        | ok text =>
          obtain ⟨stored, direct, -⟩ := Directory.write_of_write emptied (Text.Utf8.ofString text)
          simp only [direct]
          exact .written ready writable direct

theorem fillEnd_fillFile (path : String) (w : Workspace) :
    FillEnd path w ((fillFile path).run w) := by
  rw [fillFile, Activity.run_bind, Activity.run_files]
  dsimp only
  split
  · exact .refused rfl
  · simp only [Activity.run_bind, Activity.run_readFile]
    cases found : w.directory.read path with
    | error fault => exact .failed _
    | ok bytes =>
      simp only [mapError_ok, Activity.run_ofExcept]
      cases parsed : Yaml.Document.ofBytes bytes with
      | error fault => exact .failed _
      | ok document =>
        simp only [mapError_ok]
        cases filled : document.value.isTruthy with
        | false => exact .refused rfl
        | true =>
          simp only [if_true]
          cases sourced : Record.hasSource document.value with
          | error fault => exact .failed _
          | ok there =>
            cases there with
            | false => exact .refused rfl
            | true => exact fillEnd_fillRecord found parsed

/--
If everything that can be put together for the record file can be written, then the command either
succeeds, and the file is the filled record, or it changes no file at all: it ends with the status
that tells of a refusal, or in a failure.
-/
theorem fillFile_all_or_nothing
    (writable : ∀ filled, replacement? path w.directory = some filled →
      ∃ text, Yaml.dump filled = .ok text) :
    let result := ((fillFile path).run w).1
    let next := ((fillFile path).run w).2
    ((result = .ok 2 ∨ ∃ failure, result = .error failure) ∧ next.directory = w.directory) ∨
    (result = .ok 0 ∧ ∃ filled text, replacement? path w.directory = some filled ∧
      Yaml.dump filled = .ok text ∧
      w.directory.write path (Text.Utf8.ofString text) = .ok next.directory ∧
      next.directory.read path = .ok (Text.Utf8.ofString text)) := by
  dsimp only
  generalize ended : (fillFile path).run w = done
  have cases := fillEnd_fillFile path w
  rw [ended] at cases
  cases cases with
  | refused same => exact .inl ⟨.inl rfl, same⟩
  | failed failure => exact .inl ⟨.inr ⟨failure, rfl⟩, rfl⟩
  | spoilt ready unwritable emptied =>
    obtain ⟨text, written⟩ := writable _ ready
    rw [unwritable] at written
    contradiction
  | written ready dumped stored =>
    exact .inr ⟨rfl, _, _, ready, dumped, stored, Directory.read_of_write stored⟩

/-- A workspace with one record file in it. -/
def workspaceWith (text : String) : Workspace :=
  ⟨⟨[([['r']], .file (Text.Utf8.ofString text))]⟩, "", none⟩

theorem fillFile_all_or_nothing_places :
    let placeless := workspaceWith "in_source: +\nout: 5\n"
    let placed := workspaceWith "in_source: +\n"
    ((fillFile "r").run placeless).1 = .error (.record (.notAssignable "int")) ∧
    ((fillFile "r").run placeless).2.directory = placeless.directory ∧
    ((fillFile "r").run placed).1 = .ok 0 ∧
    ∃ filled text, replacement? "r" placed.directory = some filled ∧
      Yaml.dump filled = .ok text ∧
      ((fillFile "r").run placed).2.directory.read "r" = .ok (Text.Utf8.ofString text) := by
  intro placeless placed
  have failed : ((fillFile "r").run placeless).1 = .error (.record (.notAssignable "int")) := by
    decide +kernel
  have done : ((fillFile "r").run placed).1 = .ok 0 := by decide +kernel
  have writable (text : String)
      (check : ((replacement? "r" (workspaceWith text).directory).all
        fun filled => (Yaml.dump filled).isOk) = true) (filled : Yaml.Written)
      (ready : replacement? "r" (workspaceWith text).directory = some filled) :
      ∃ text, Yaml.dump filled = .ok text := by
    rw [ready, Option.all_some] at check
    cases written : Yaml.dump filled with
    | ok text => exact ⟨text, rfl⟩
    | error fault =>
      rw [written] at check
      contradiction
  have first := @fillFile_all_or_nothing "r" placeless (writable _ (by decide +kernel))
  have second := @fillFile_all_or_nothing "r" placed (writable _ (by decide +kernel))
  rcases first with ⟨-, same⟩ | ⟨finished, -⟩
  · rcases second with ⟨unfinished, -⟩ | ⟨-, filled, text, ready, dumped, -, found⟩
    · rw [done] at unfinished
      rcases unfinished with refused | ⟨failure, other⟩
      · cases refused
      · cases other
    · exact ⟨failed, same, done, filled, text, ready, dumped, found⟩
  · rw [failed] at finished
    cases finished

end TapeMachine.Command
