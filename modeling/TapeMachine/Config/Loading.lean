import TapeMachine.Failure
import TapeMachine.Yaml.Document

set_option autoImplicit false

namespace TapeMachine

namespace Config

/-- The configuration that the value of a document describes; one that counts as false is empty. -/
def ofDocument (path : String) (document : Value) : Except Failure Config :=
  match if document.isTruthy then document else .map [] with
  | .map entries => (ofEntries entries).mapError .ofRefusal
  | _ => .error (.config (.notMapping path))

/-- The configuration in a file; `shown` is how messages give its path. -/
def ofFile (d : Directory) (shown : String) : Except Failure Config := do
  let path := (Path.ofString shown).text
  if !(← (d.exists? path).mapError .file) then .error (.config (.missing shown))
  else
    let bytes ← (d.read path).mapError fun cause => .config (.unreadable shown cause)
    let document ← (Yaml.Document.ofBytes bytes).mapError fun fault =>
      if fault = .malformed then .config (.malformed shown) else .document fault
    ofDocument shown document.value

def load (d : Directory) : Value → Except Failure Config
  | .null => (ofEntries []).mapError .ofRefusal
  | .map entries => (ofEntries entries).mapError .ofRefusal
  | .str path => ofFile d path
  | .path path => ofFile d path
  | _ => .error (.config .unsupported)

end Config

end TapeMachine
