import TapeMachine.Proofs.Command.Fill
import TapeMachine.Proofs.Record.Results

/-!
Filling in a record file twice. Main statement: the results are the only thing in the record that
changes, and whoever fills in the filled record writes the same file again. The second run is the
first one, even if the configuration of the record stands in the record file itself.
-/

set_option autoImplicit false

namespace TapeMachine.Command

open Record (observed observedNames resultKey)

/-- A record with the results of its run. -/
def completed? (d : Directory) (record : Value) : Option Value := do
  let (outcome, last) ← (Record.run d record).toOption
  let entries ← (Record.entriesOf record).toOption
  let full ← (Record.withResults entries (observed outcome last)).toOption
  return .map full

/-- That a record file can be filled in: what it holds, how its run ends, and what is written. -/
structure Fills (path : String) (d : Directory) (old new : Value.Entries) (outcome : Outcome)
    (last : Machine) (text : String) (d' : Directory) : Prop where
  read : ∃ bytes, d.read path = .ok bytes ∧ Yaml.Document.ofBytes bytes = .ok (.tree (.map old))
  ran : Record.run d (.map old) = .ok (outcome, last)
  completed : Record.withResults old (observed outcome last) = .ok new
  dumped : Yaml.dump (.ofValue none (.map new)) = .ok text
  stored : d.write path (Text.Utf8.ofString text) = .ok d'

variable {path text : String} {w : Workspace} {d d' : Directory} {old new : Value.Entries}
  {outcome : Outcome} {last : Machine}

section Once

private theorem Fills.filled_eq (fills : Fills path d old new outcome last text d') :
    Record.filled (.tree (.map old)) (observed outcome last) =
      .ok (.ofValue none (.map new), Record.fieldCount new) := by
  rw [Record.filled]
  simp only [Record.entriesOf, ok_bind, fills.completed]
  rfl

private theorem Fills.run_fillRecord (fills : Fills path w.directory old new outcome last text d') :
    ((fillRecord path (.tree (.map old))).run w).1 = .ok 0 ∧
      ((fillRecord path (.tree (.map old))).run w).2.directory = d' := by
  obtain ⟨emptied, cleared, -⟩ := Directory.write_of_write fills.stored []
  have ran : (fillRecord path (.tree (.map old))).run w = (do
      Activity.printLine s!"Updated {path} with {Record.fieldCount new} expected fields."
      return 0 : Activity Nat).run { w with directory := d' } := by
    simp only [fillRecord, Activity.run_bind, Activity.run_files, Yaml.Document.value, fills.ran,
      Activity.run_ofExcept, fills.filled_eq, mapError_ok, run_writeDocument, cleared,
      fills.dumped, fills.stored]
  rw [ran]
  exact ⟨rfl, rfl⟩

theorem Fills.run_fillFile (fills : Fills path w.directory old new outcome last text d') :
    ((fillFile path).run w).1 = .ok 0 ∧ ((fillFile path).run w).2.directory = d' := by
  obtain ⟨bytes, found, parsed⟩ := fills.read
  obtain ⟨entries, source, same, sourced⟩ := Record.exists_of_run fills.ran
  cases same
  have holds : w.directory.holds path = true := by
    rw [Directory.holds, Directory.exists_eq_of_read found]
    rfl
  have something : (Value.map old).isTruthy = true := by
    cases old with
    | nil => contradiction
    | cons entry rest => rfl
  have hasSource : Record.hasSource (.map old) = .ok true := by
    rw [Record.hasSource, sourced]
    rfl
  have ran : (fillFile path).run w = (fillRecord path (.tree (.map old))).run w := by
    simp only [fillFile, Activity.run_bind, Activity.run_files, holds, Bool.not_true,
      Bool.false_eq_true, if_false, Activity.run_readFile, found, mapError_ok,
      Activity.run_ofExcept, parsed, Yaml.Document.value, something, if_true, hasSource]
  rw [ran]
  exact fills.run_fillRecord

private theorem exists_of_replacement? {bytes : List UInt8} {record : Value} {filled : Yaml.Written}
    (found : d.read path = .ok bytes)
    (parsed : Yaml.Document.ofBytes bytes = .ok (.tree record))
    (ready : replacement? path d = some filled) :
    ∃ old new outcome last, record = .map old ∧ Record.run d (.map old) = .ok (outcome, last) ∧
      Record.withResults old (observed outcome last) = .ok new ∧
      filled = .ofValue none (.map new) := by
  simp only [replacement?, found, Except.toOption, Option.bind_eq_bind, Option.bind_some, parsed,
    Yaml.Document.value] at ready
  cases ran : Record.run d record with
  | error failure =>
    rw [ran] at ready
    contradiction
  | ok result =>
    obtain ⟨outcome, last⟩ := result
    obtain ⟨old, source, rfl, -⟩ := Record.exists_of_run ran
    simp only [ran, Option.bind_some, Record.filled, Record.entriesOf, ok_bind] at ready
    cases completed : Record.withResults old (observed outcome last) with
    | error fault =>
      rw [completed] at ready
      contradiction
    | ok new =>
      rw [completed] at ready
      exact ⟨old, new, outcome, last, rfl, ran, completed, (Option.some.inj ready).symm⟩

/-- Whenever a record file of which nothing is shared has been filled in, it could be. -/
theorem fills_of_run_fillFile {bytes : List UInt8} {record : Value}
    (found : w.directory.read path = .ok bytes)
    (parsed : Yaml.Document.ofBytes bytes = .ok (.tree record))
    (done : ((fillFile path).run w).1 = .ok 0) :
    ∃ old new outcome last text, record = .map old ∧
      Fills path w.directory old new outcome last text ((fillFile path).run w).2.directory := by
  have ended := fillEnd_fillFile path w
  revert ended done
  generalize (fillFile path).run w = result
  intro done ended
  cases ended with
  | refused same => cases done
  | failed failure => cases done
  | spoilt ready unwritable emptied => cases done
  | written ready dumped stored =>
    obtain ⟨old, new, outcome, last, rfl, ran, completed, rfl⟩ :=
      exists_of_replacement? found parsed ready
    exact ⟨old, new, outcome, last, _, rfl, ⟨bytes, found, parsed⟩, ran, completed, dumped, stored⟩

private theorem Fills.completed?_eq (fills : Fills path d old new outcome last text d') :
    completed? d (.map old) = some (.map new) := by
  simp only [completed?, fills.ran, Record.entriesOf, Except.toOption, Option.bind_eq_bind,
    Option.bind_some, fills.completed]
  rfl

end Once

section Twice

private theorem Fills.get?_of_ne (fills : Fills path d old new outcome last text d') {name : String}
    (ne : name ≠ resultKey) : new.get? name = old.get? name := by
  obtain ⟨fields, -, rfl⟩ := Record.withResults_eq_ok_iff.mp fills.completed
  exact Value.Entries.get?_put_of_ne ne

private theorem Fills.again (fills : Fills path d old new outcome last text d')
    (reloads : Yaml.Document.ofBytes (Text.Utf8.ofString text) = .ok (.tree (.map new))) :
    Fills path d' new new outcome last text d' := by
  obtain ⟨bytes, found, parsed⟩ := fills.read
  obtain ⟨place, located, here⟩ := Directory.locate_of_read found
  obtain ⟨place', located', noFolder, rfl⟩ := Directory.exists_of_write fills.stored
  obtain rfl : place = place' := Except.ok.inj (located.symm.trans located')
  have other (name : String) (ne : name ≠ resultKey) : new.get? name = old.get? name :=
    fills.get?_of_ne ne
  have settings : (Config.ofEntries new).map Config.settings =
      (Config.ofEntries old).map Config.settings :=
    Config.settings_ofEntries (other _ (by decide)) (other _ (by decide))
  have configOf : Record.configOf new = Record.configOf old := by
    rw [Record.configOf, Record.configOf, other _ (by decide)]
  have inputOf : Record.inputOf new = Record.inputOf old := by
    rw [Record.inputOf, Record.inputOf, other _ (by decide)]
  have stored := fills.stored
  refine ⟨⟨_, Directory.read_of_write stored, reloads⟩, ?_,
    Record.withResults_again fills.completed, fills.dumped, ?_⟩
  · rw [← fills.ran]
    apply Record.run_congr _ (other _ (by decide)) inputOf
    rw [configOf]
    exact Config.settings_load_put here parsed reloads settings _
  · obtain ⟨again, same, twice⟩ := Directory.write_of_write stored (Text.Utf8.ofString text)
    rw [stored] at same
    cases same
    exact twice

/-- That a record differs from another one only in what was observed, which it tells. -/
structure Updates (seen old new : Value.Entries) : Prop where
  record : Value.Entries.Keeps [resultKey] old new
  results : ∃ before after : Value.Entries,
    (old.get? resultKey).getD (.map []) = .map before ∧
      new.get? resultKey = some (.map after) ∧
      Value.Entries.Keeps observedNames before after ∧
      ∀ name ∈ observedNames, ∃ v, (.str name, v) ∈ seen ∧ after.get? name = some v

private theorem Fills.updates (fills : Fills path d old new outcome last text d') :
    Updates (observed outcome last) old new := by
  obtain ⟨before, results, rfl⟩ := Record.withResults_eq_ok_iff.mp fills.completed
  have named : ∀ entry ∈ observed outcome last, ∃ name ∈ observedNames, entry.1 = .str name :=
    fun _ => Record.named_of_mem_observed
  refine ⟨Value.Entries.keeps_put (List.mem_singleton.mpr rfl) _ _, before, _, results,
    Value.Entries.get?_put_self _ _ _, Value.Entries.keeps_putAll named before, ?_⟩
  intro name known
  obtain ⟨v, listed⟩ := Record.exists_mem_observed known outcome last
  exact ⟨v, listed, Value.Entries.get?_putAll named
    (Record.nodup_map_fst_observed outcome last) listed before⟩

end Twice

/-- The value of a document that has been read, if nothing of it is shared. -/
def tree? : Except Yaml.Fault Yaml.Document → Option Value
  | .ok (.tree v) => some v
  | _ => none

private theorem eq_of_tree? {parsed : Except Yaml.Fault Yaml.Document} {v : Value}
    (same : tree? parsed = some v) : parsed = .ok (.tree v) := by
  cases parsed with
  | error fault => contradiction
  | ok document =>
    cases document with
    | tree u => rw [Option.some.inj same]
    | web g => contradiction

/--
Whenever a record file of which nothing is shared has been filled in, only the results in its record
have changed, and of these only what is observed of a run, which is what the run of the record
gives. If what was written is read as the value that it was written for, then the command can be
repeated, and writes the same file.
-/
theorem fillFile_twice {bytes : List UInt8} {record : Value}
    (found : w.directory.read path = .ok bytes)
    (parsed : Yaml.Document.ofBytes bytes = .ok (.tree record))
    (done : ((fillFile path).run w).1 = .ok 0)
    (reloads : ∀ full text, completed? w.directory record = some full →
      Yaml.dump (.ofValue none full) = .ok text →
      Yaml.Document.ofBytes (Text.Utf8.ofString text) = .ok (.tree full)) :
    let next := ((fillFile path).run w).2
    (∃ old new outcome last text, record = .map old ∧
      Record.run w.directory record = .ok (outcome, last) ∧
      next.directory.read path = .ok (Text.Utf8.ofString text) ∧
      Yaml.Document.ofBytes (Text.Utf8.ofString text) = .ok (.tree (.map new)) ∧
      Updates (observed outcome last) old new) ∧
    ((fillFile path).run next).1 = .ok 0 ∧
      ((fillFile path).run next).2.directory = next.directory := by
  intro next
  obtain ⟨old, new, outcome, last, text, rfl, fills⟩ := fills_of_run_fillFile found parsed done
  have reloaded := reloads _ _ fills.completed?_eq fills.dumped
  exact ⟨⟨old, new, outcome, last, text, rfl, fills.ran, Directory.read_of_write fills.stored,
    reloaded, fills.updates⟩, (fills.again reloaded).run_fillFile⟩

/--
A record file that is its own configuration file. What is observed comes in behind the note, and the
second run leaves the file as it is.
-/
theorem fillFile_twice_own_config :
    let record := fun results : Value.Entries => Value.map [(.str "in_source", .str "+"),
      (.str "in_config", .str "r"), (.str "out", .map ((.str "note", .int 7) :: results))]
    let results : Value.Entries := [(.str "out_stdout", .str ""), (.str "out_bytes", .list []),
      (.str "pointer", .int 0), (.str "pc", .int 2), (.str "steps", .int 2),
      (.str "state", .str "halted"), (.str "unmatched_loop_ends", .int 0),
      (.str "memory", .map [(.int 0, .int 1)])]
    let w := workspaceWith "in_source: +\nin_config: r\nout:\n  note: 7\n"
    let next := ((fillFile "r").run w).2
    ((fillFile "r").run w).1 = .ok 0 ∧
      completed? w.directory (record []) = some (record results) ∧
      ((fillFile "r").run next).1 = .ok 0 ∧
      ((fillFile "r").run next).2.directory.read "r" = next.directory.read "r" := by
  intro record results w next
  let read := fun text : String => tree? (Yaml.Document.ofBytes (Text.Utf8.ofString text))
  have done : ((fillFile "r").run w).1 = .ok 0 := by decide +kernel
  have parsed : read "in_source: +\nin_config: r\nout:\n  note: 7\n" = some (record []) := by
    decide +kernel
  have completed : completed? w.directory (record []) = some (record results) := by decide +kernel
  have reread : (Yaml.dump (.ofValue none (record results))).toOption.bind read =
      some (record results) := by decide +kernel
  have reloads (full : Value) (text : String)
      (same : completed? w.directory (record []) = some full)
      (dumped : Yaml.dump (.ofValue none full) = .ok text) :
      Yaml.Document.ofBytes (Text.Utf8.ofString text) = .ok (.tree full) := by
    obtain rfl := Option.some.inj (completed.symm.trans same)
    rw [dumped] at reread
    exact eq_of_tree? reread
  obtain ⟨-, again, kept⟩ := @fillFile_twice "r" w _ _ rfl (eq_of_tree? parsed) done reloads
  exact ⟨done, completed, again, by rw [kept]⟩

end TapeMachine.Command
