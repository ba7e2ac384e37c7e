import TapeMachine.Listing
import TapeMachine.Workspace

set_option autoImplicit false

namespace TapeMachine.Compile

def source (text : List Char) : List UInt8 := Opcode.encode (Opcode.ofSource text)

def bytes (content : List UInt8) : Except Text.Utf8.Fault (List UInt8) :=
  (Text.Utf8.decode content).map source

def existing (path : String) : Activity Path := do
  let p := Path.ofString path
  if ← Activity.fileExists p.text then return p else throw (.sourceMissing path)

def readSource (path : String) : Activity String := do Activity.readText (← existing path).text

/-- Where the binary of a source file goes: to the given path, or beside it with its own suffix. -/
def outputPath (path : Path) (out? : Option String) : String :=
  match out? with
  | some out => (Path.ofString out).text
  | none => (path.withSuffix ['.', 'b', 'i', 'n']).text

/-- Compile a source file, with a listing beside the binary if it is asked for. -/
def file (path : String) (out? : Option String) (listing : Bool) : Activity String := do
  let p ← existing path
  let code ← Activity.ofExcept .encoding (bytes (← Activity.readFile p.text))
  let out := outputPath p out?
  Activity.writeFile out code
  if listing then Activity.writeText (Path.ofString (out ++ ".hex")).text (Listing.render code)
  return out

end TapeMachine.Compile
