import TapeMachine.Arguments
import TapeMachine.Compile
import TapeMachine.Session

set_option autoImplicit false

namespace TapeMachine.Command

def runUsage : Usage where
  options :=
    [⟨["-h", "--help"], .help⟩, ⟨["--input"], .value⟩, ⟨["--input-file"], .value⟩,
      ⟨["--config"], .value⟩, ⟨["--debug"], .switch⟩, ⟨["--logfile"], .value⟩,
      ⟨["--console"], .switch⟩]
  exclusive := [("--input", "--input-file")]
  defaults := [("--input", "")]

def defaultLog : String := "processor.log"

/-- What is printed about a run: the output, the number of steps, and whether the limit was met. -/
def reportText (r : Report) : String :=
  r.output ++ "\n" ++ "STEPS: " ++ toString r.steps ++ "\n" ++
    match r.outcome with
    | .halted => ""
    | .limit => "STATE: " ++ r.outcome.name ++ "\n"

/-- Run the program in a file: a binary one if its suffix says so, else a source text. -/
def runFile (program input : String) (c : Config) : Activity Report := do
  let path := Path.ofString program
  if path.suffix = ['.', 'b', 'i', 'n'] then
    Session.perform c (Opcode.decode (← Activity.readFile path.text)) input
  else Session.perform c (Opcode.ofSource (← Compile.readSource path.text).toList) input

/-- Run a program with its input, once the configuration is known. -/
def runConfigured (a : Arguments) (c : Config) : Activity Nat := do
  let inputFile := (a.value? "--input-file").getD ""
  let path := (Path.ofString inputFile).text
  if inputFile ≠ "" && !(← Activity.fileExists path) then
    Activity.printLine ("Input file not found: " ++ inputFile)
    return 2
  let input ← if inputFile ≠ "" then Activity.readText path else pure ((a.value? "--input").getD "")
  if !(← Activity.fileExists (Path.ofString a.operand).text) then
    Activity.printLine ("Program file not found: " ++ a.operand)
    return 2
  Activity.print (reportText (← runFile a.operand input c))
  return 0

/-- Run a program as the arguments say; returns the exit status. -/
def performRun (a : Arguments) : Activity Nat := do
  Log.start ((a.value? "--logfile").getD defaultLog) (a.has "--debug") (a.has "--console")
  let config := match a.value? "--config" with
    | some path => Value.str path
    | none => .null
  match Config.load (← Activity.files) config with
  | .ok c => runConfigured a c
  | .error (.config fault) =>
    Activity.printLine ("Bad config: " ++ fault.message)
    return 2
  | .error failure => throw failure

end TapeMachine.Command
