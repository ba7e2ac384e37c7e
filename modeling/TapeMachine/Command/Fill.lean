import TapeMachine.Record
import TapeMachine.Workspace
import TapeMachine.Yaml.Printer

set_option autoImplicit false

namespace TapeMachine.Command

def fillUsage : String := "Usage: generate_golden_fields.py path/to/golden.yaml"

/-- Write a document into a file, which is emptied before it is known that this can be done. -/
def writeDocument (path : String) (document : Yaml.Written) : Activity Unit := do
  Activity.writeText path ""
  Activity.writeText path (← Activity.ofExcept .document (Yaml.dump document))

/-- Fill in a record that has been read; returns the exit status. -/
def fillRecord (path : String) (document : Yaml.Document) : Activity Nat := do
  match Record.run (← Activity.files) document.value with
  | .error (.config fault) =>
    Activity.printLine ("Bad in_config: " ++ fault.message)
    return 2
  | .error failure => throw failure
  | .ok (outcome, last) =>
    let seen := Record.observed outcome last
    let (filled, count) ← Activity.ofExcept .record (Record.filled document seen)
    writeDocument path filled
    Activity.printLine s!"Updated {path} with {count} expected fields."
    return 0

/-- Fill in a record file; returns the exit status. -/
def fillFile (path : String) : Activity Nat := do
  if !(← Activity.files).holds path then
    Activity.printLine ("File not found: " ++ path)
    return 2
  let loaded ← Activity.ofExcept .document (Yaml.Document.ofBytes (← Activity.readFile path))
  let document := if loaded.value.isTruthy then loaded else .tree (.map [])
  if !(← Activity.ofExcept .record (Record.hasSource document.value)) then
    Activity.printLine "No 'in_source' found in YAML - nothing to run"
    return 2
  fillRecord path document

/-- Fill in the record file that is the only argument; returns the exit status. -/
def performFill : List String → Activity Nat
  | [path] => fillFile path
  | _ => do
    Activity.printLine fillUsage
    return 1

end TapeMachine.Command
