import TapeMachine.Config.Loading
import TapeMachine.Dump
import TapeMachine.Listing
import TapeMachine.Workspace

set_option autoImplicit false

namespace TapeMachine

/-- What a run is reported by. -/
structure Report where
  output : String
  steps : Nat
  outcome : Outcome
  deriving DecidableEq

namespace Session

def machine (c : Config) : Except Failure Machine :=
  (Machine.ofCapacity c.memoryCells).mapError .tape

def run (c : Config) (ops : List Opcode) (input : List UInt8) :
    Except Failure (Machine × Outcome × Machine) := do
  let loaded := ((← machine c).load ops).feed input
  match loaded.run c.stepLimit with
  | some (outcome, last) => return (loaded, outcome, last)
  | none => throw .endless

def events (c : Config) (loaded : Machine) (outcome : Outcome) (last : Machine) : List Event :=
  loaded.eventsOfLoad ++ loaded.eventsOfFeed ++
    loaded.eventsOfRun c.lenientLog (c.stepLimit.map Int.ofNat) (outcome, last)

/-- Write a file that a run leaves behind; a failure is only logged. -/
def leave (name : String) (content : List UInt8) : Activity Unit := do
  match (← Activity.files).write name content with
  | .ok directory => modify fun w => { w with directory := directory }
  | .error cause => Log.record [.notWritten name cause.message]

def leaveAll (last : Machine) : Activity Unit := do
  let code := Opcode.encode last.code.toList
  leave "memory_dump.txt" (Text.Utf8.ofString (Dump.render last))
  leave "out.bin" code
  leave "out.hex" (Text.Utf8.ofString (Listing.render code))

def perform (c : Config) (ops : List Opcode) (input : String) : Activity Report := do
  let (loaded, outcome, last) ← Activity.ofExcept id (run c ops (inputBytes input))
  if ← Log.isOpen then
    Log.record (events c loaded outcome last)
    leaveAll last
  return ⟨last.outputText, last.steps, outcome⟩

def configure (config : Value) : Activity Config := do
  Activity.ofExcept id (Config.load (← Activity.files) config)

def runSource (source input : String) (config : Value) : Activity Report := do
  perform (← configure config) (Opcode.ofSource source.toList) input

def runBytes (code : List UInt8) (input : String) (config : Value) : Activity Report := do
  perform (← configure config) (Opcode.decode code) input

end Session

end TapeMachine
