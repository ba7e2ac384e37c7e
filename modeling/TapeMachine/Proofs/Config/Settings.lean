import TapeMachine.Proofs.Config

set_option autoImplicit false

namespace TapeMachine.Config

/-- The number of cells and the step limit; all else is about the log or about nothing. -/
def settings (c : Config) : Nat × Option Nat := (c.memoryCells, c.stepLimit)

private theorem settings_make (cells : Int) (limit : Option Int) (lenient lenient' : Bool)
    (others others' : Value.Entries) :
    (make cells limit lenient others).map settings =
      (make cells limit lenient' others').map settings := by
  unfold make
  split
  · split
    · rfl
    · rfl
  · rfl

theorem settings_ofEntries {entries entries' : Value.Entries}
    (cells : entries.get? cellsKey = entries'.get? cellsKey)
    (limit : entries.get? limitKey = entries'.get? limitKey) :
    (ofEntries entries).map settings = (ofEntries entries').map settings := by
  simp only [ofEntries, cells, limit, bind, Except.bind]
  split
  · rfl
  · split
    · rfl
    · exact settings_make _ _ _ _ _ _

section Replaced

variable {d : Directory} {place : Place} {bytes bytes' : List UInt8} {shown : String}
  {entries entries' : Value.Entries} {config : Value}

private theorem load_of_mapping (named : pathOf? config = some shown)
    (found : d.read (Path.ofString shown).text = .ok bytes)
    (read : Yaml.Document.ofBytes bytes = .ok (.tree (.map entries))) :
    load d config = (ofEntries entries).mapError .ofRefusal := by
  rw [load_of_read named found, read]
  exact ofDocument_map shown entries

theorem settings_load_put (there : d.lookup place = some (.file bytes))
    (read : Yaml.Document.ofBytes bytes = .ok (.tree (.map entries)))
    (reread : Yaml.Document.ofBytes bytes' = .ok (.tree (.map entries')))
    (same : (ofEntries entries').map settings = (ofEntries entries).map settings)
    (config : Value) :
    (load (d.put place bytes') config).map settings = (load d config).map settings := by
  cases named : pathOf? config with
  | none => rw [load_of_pathOf?_eq_none named d]
  | some shown =>
    by_cases here : d.locate (Path.ofString shown).text = .ok place
    · -- The configuration stands in the file itself.
      have noFolder := Directory.ne_folder_of_file there
      have found := Directory.read_of_locate here there
      have found' : (d.put place bytes').read (Path.ofString shown).text = .ok bytes' :=
        Directory.read_of_locate (Directory.locate_put noFolder here)
          (Directory.lookup_put_self noFolder)
      have inside (result : Except Refusal Config) :
          (result.mapError Failure.ofRefusal).map settings =
            (result.map settings).mapError Failure.ofRefusal := by
        cases result <;> rfl
      rw [load_of_mapping named found read, load_of_mapping named found' reread, inside, inside,
        same]
    · rw [load_of_pathOf? named, load_of_pathOf? named, ofFile_eq, ofFile_eq,
        Directory.exists?_put_of_file there, Directory.read_put_of_ne there here]

end Replaced

end TapeMachine.Config
