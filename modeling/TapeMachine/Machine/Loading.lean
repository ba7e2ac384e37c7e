import TapeMachine.Machine.Run
import TapeMachine.Value.Integer

set_option autoImplicit false

namespace TapeMachine

namespace Value

/-- The instruction that a source token stands for; a token that is no symbol does nothing. -/
def toOpcode (token : Value) : Except Fault Opcode :=
  match token.unhashableType? with
  | some typeName => .error (.unhashable typeName)
  | none =>
    match token with
    | str text =>
      match text.toList with
      | [c] => .ok (.ofChar c)
      | _ => .ok .nop
    | _ => .ok .nop

def toInputByte : Value → Except Fault UInt8
  | str text =>
    match text.toList with
    | [c] => .ok (UInt8.ofNat c.toNat)
    | cs => .error (.wrongLength cs.length)
  | bytes [b] => .ok b
  | bytes bs => .error (.wrongLength bs.length)
  | v => .error (.notText v.typeName)

def toOpcodes (tokens : Value) : Except Fault (List Opcode) := do
  (← tokens.elements).mapM toOpcode

def codesToOpcodes (codes : Value) : Except Fault (List Opcode) := do
  (← codes.elements).mapM fun v => return .ofCode (← v.toInt)

/-- The bytes of a binary program with the given numeric codes, cut to eight bits each. -/
def codesToBytes (codes : Value) : Except Fault (List UInt8) := do
  (← codes.elements).mapM fun v => return lowByte (← v.toInt)

def toInputBytes (text : Value) : Except Fault (List UInt8) := do
  (← text.elements).mapM toInputByte

end Value

/-- The bytes of an input text: of every character the low eight bits of its code point. -/
def inputBytes (text : String) : List UInt8 := text.toList.map fun c => UInt8.ofNat c.toNat

namespace Tape

/-- Why there is no tape of a given capacity. -/
inductive Fault
  | notPositive (capacity : Int)
  /-- The cells could be counted, but no memory holds them. -/
  | outOfMemory
  | tooLarge
  deriving DecidableEq

def Fault.message : Fault → String
  | notPositive capacity => s!"tape capacity must be positive, got {capacity}"
  | outOfMemory => ""
  | tooLarge => "cannot fit 'int' into an index-sized integer"

def memoryBound : Int := Nat.pow 2 40

/--
A tape of zeros with a given capacity, which an index of 64 bits with a sign has to reach, and for
which there has to be memory.
-/
def ofCapacity (capacity : Int) : Except Fault Tape :=
  if positive : 0 < capacity.toNat then
    if capacity < memoryBound then .ok (blank capacity.toNat positive)
    else if capacity < Nat.pow 2 63 then .error .outOfMemory
    else .error .tooLarge
  else .error (.notPositive capacity)

end Tape

/-- A limit on the instructions of a run. -/
structure StepLimit where
  /-- How many instructions may be executed; none means any number. -/
  budget : Option Nat
  /-- The limit as the log gives it. -/
  shown : Option Int

namespace StepLimit

def unlimited : StepLimit := ⟨none, none⟩

/-- A limit that is an integer; a negative one allows nothing. -/
def ofInt (n : Int) : StepLimit := ⟨some n.toNat, some n⟩

/-- A limit that is a floating-point number: so many instructions as are needed to reach it. -/
def ofBinary64 : Binary64 → StepLimit
  | .nan => ⟨some 0, none⟩
  | .infinity negative => ⟨if negative then some 0 else none, none⟩
  | .finite negative mantissa exponent =>
    let whole := Binary64.truncate negative mantissa exponent
    let up := !negative && Binary64.hasFraction mantissa exponent
    ⟨some (if up then whole + 1 else whole).toNat, some whole⟩

/-- The limit that a value stands for; a value that is no number cannot be compared with. -/
def ofValue : Value → Except Value.Fault StepLimit
  | .null => .ok unlimited
  | .bool b => .ok (ofInt (if b then 1 else 0))
  | .int n => .ok (ofInt n)
  | .float x => .ok (ofBinary64 x)
  | v => .error (.notComparable v.typeName)

end StepLimit

namespace Machine

/-- A machine with a tape of a given capacity and nothing loaded. -/
def ofCapacity (capacity : Int) : Except Tape.Fault Machine := (Tape.ofCapacity capacity).map new

def loadTokens (tokens : Value) (m : Machine) : Except Value.Fault Machine :=
  return m.load (← tokens.toOpcodes)

def loadCodes (codes : Value) (m : Machine) : Except Value.Fault Machine :=
  return m.load (← codes.codesToOpcodes)

def loadInput (text : Value) (m : Machine) : Except Value.Fault Machine :=
  return m.feed (← text.toInputBytes)

def storeValue (v : Value) (m : Machine) : Except Value.Fault Machine :=
  return { m with tape := m.tape.store (← v.toInt) }

end Machine

end TapeMachine
