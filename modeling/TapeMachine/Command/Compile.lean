import TapeMachine.Arguments
import TapeMachine.Compile

set_option autoImplicit false

namespace TapeMachine.Command

def compileUsage : Usage where
  options := [⟨["-h", "--help"], .help⟩, ⟨["-o", "--out"], .value⟩, ⟨["--debug"], .switch⟩]
  exclusive := []
  defaults := []

/-- Compile a source file as the arguments say; prints the path of the binary. -/
def performCompile (a : Arguments) : Activity Nat := do
  Activity.printLine (← Compile.file a.operand (a.value? "-o") (a.has "--debug"))
  return 0

end TapeMachine.Command
