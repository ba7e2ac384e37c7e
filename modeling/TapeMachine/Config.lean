import TapeMachine.Directory
import TapeMachine.Value.Integer

set_option autoImplicit false

namespace TapeMachine

/-- A configuration in normal form. -/
structure Config where
  memoryCells : Nat
  memoryCells_pos : 0 < memoryCells
  /-- The most instructions of a run; none means any number. -/
  stepLimit : Option Nat
  /-- Whether the log leaves out the lines about single steps. -/
  lenientLog : Bool
  /-- The entries that say nothing about a run. -/
  others : Value.Entries

namespace Config

/-- Why there is no configuration. -/
inductive Fault
  | missing (path : String)
  | unreadable (path : String) (cause : Directory.Fault)
  | malformed (path : String)
  | notMapping (path : String)
  | unsupported
  | badType (cause : Value.Fault)
  | noCells
  | negativeLimit
  deriving DecidableEq

def Fault.message : Fault → String
  | missing path => "Config file not found: " ++ path
  | unreadable path cause => "Failed to load config file " ++ path ++ ": " ++ cause.message
  | malformed path => "Failed to load config file " ++ path ++ ": <yaml error>"
  | notMapping path => "Config file " ++ path ++ " does not contain a mapping"
  | unsupported => "Unsupported config input"
  | badType cause => "Bad types in config: " ++ cause.message
  | noCells => "memory_cells must be positive"
  | negativeLimit => "step_limit must be non-negative or null"

/-- A configuration that cannot be made: a fault of its own, or a number without any bound. -/
inductive Refusal
  | fault (f : Fault)
  | unbounded
  deriving DecidableEq

def cellsKey : String := "memory_cells"

def limitKey : String := "step_limit"

def lenientKey : String := "lenient_log"

def defaultCells : Int := 16

def defaultLimit : Int := 100000

def isSetting (key : Value) : Bool :=
  [cellsKey, limitKey, lenientKey].any fun name => Value.sameKey key (.str name)

def number (v : Value) : Except Refusal Int :=
  match v.toInt with
  | .ok n => .ok n
  | .error .infinityToInteger => .error .unbounded
  | .error cause => .error (.fault (.badType cause))

/-- The step limit that a setting stands for, where nothing means no limit. -/
def limit : Value → Except Refusal (Option Int)
  | .null => .ok none
  | v => (number v).map some

def make (cells : Int) (limit : Option Int) (lenient : Bool) (others : Value.Entries) :
    Except Refusal Config :=
  if positive : 0 < cells.toNat then
    if limit.any (· < 0) then .error (.fault .negativeLimit)
    else .ok ⟨cells.toNat, positive, limit.map Int.toNat, lenient, others⟩
  else .error (.fault .noCells)

def ofEntries (entries : Value.Entries) : Except Refusal Config := do
  let setting := fun (key : String) (default : Value) => (entries.get? key).getD default
  let cells ← number (setting cellsKey (.int defaultCells))
  let steps ← limit (setting limitKey (.int defaultLimit))
  make cells steps (setting lenientKey (.bool false)).isTruthy
    (entries.filter fun entry => !isSetting entry.1)

def toEntries (c : Config) : Value.Entries :=
  (.str cellsKey, .int c.memoryCells) ::
    (.str limitKey, match c.stepLimit with | some n => .int n | none => .null) ::
    (.str lenientKey, .bool c.lenientLog) :: c.others

end Config

end TapeMachine
