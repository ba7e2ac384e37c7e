import TapeMachine.Failure
import TapeMachine.Machine.Trace
import TapeMachine.Text.LineBreak

set_option autoImplicit false

namespace TapeMachine

/-- An open debug log. -/
structure Log where
  place : Place
  /-- How many bytes have been written. -/
  written : Nat
  /-- Whether events are printed as well. -/
  echo : Bool

/-- The files, the printed text and the log. -/
structure Workspace where
  directory : Directory
  printed : String
  log : Option Log

abbrev Activity := ExceptT Failure (StateM Workspace)

namespace Activity

def ofExcept {ε α : Type} (failure : ε → Failure) : Except ε α → Activity α
  | .ok a => pure a
  | .error e => throw (failure e)

def files : Activity Directory := return (← get).directory

def print (text : String) : Activity Unit := modify fun w => { w with printed := w.printed ++ text }

def printLine (text : String) : Activity Unit := print (text ++ "\n")

def fileExists (path : String) : Activity Bool := do ofExcept .file ((← files).exists? path)

def readFile (path : String) : Activity (List UInt8) := do ofExcept .file ((← files).read path)

/-- Read the text of a file, in which every line ends with a line feed. -/
def readText (path : String) : Activity String := do
  let text ← ofExcept .encoding (Text.Utf8.decode (← readFile path))
  return String.ofList (Text.unifyBreaks text)

def writeFile (path : String) (bytes : List UInt8) : Activity Unit := do
  let directory ← ofExcept .file ((← files).write path bytes)
  modify fun w => { w with directory := directory }

def writeText (path text : String) : Activity Unit := writeFile path (Text.Utf8.ofString text)

end Activity

/-- Put bytes into a file from a position on; what is missing before it is filled by zeros. -/
def Directory.writeAt (place : Place) (position : Nat) (bytes : List UInt8) (d : Directory) :
    Directory :=
  let old := match d.lookup place with
    | some (.file content) => content
    | _ => []
  let before := old.take position
  d.put place (before ++ List.replicate (position - before.length) 0 ++ bytes ++
    old.drop (position + bytes.length))

namespace Log

/-- The path of a log file: pairs of dots are taken back as a matter of text. -/
def pathOf (name : String) : String := (Path.ofString name).simplify.text

/-- Begin an empty log file; events are logged only in debug mode. -/
def start (name : String) (debug console : Bool) : Activity Unit := do
  let path := pathOf name
  let place ← Activity.ofExcept .file ((← Activity.files).target path)
  Activity.writeFile path []
  modify fun w => { w with log := if debug then some ⟨place, 0, console⟩ else none }

def text (events : List Event) : String := String.join (events.map fun e => e.line ++ "\n")

def record (events : List Event) : Activity Unit :=
  modify fun w =>
    match w.log with
    | none => w
    | some log =>
      let lines := text events
      let bytes := Text.Utf8.ofString lines
      { directory := w.directory.writeAt log.place log.written bytes
        printed := if log.echo then w.printed ++ lines else w.printed
        log := some { log with written := log.written + bytes.length } }

def isOpen : Activity Bool := return (← get).log.isSome

end Log

end TapeMachine
