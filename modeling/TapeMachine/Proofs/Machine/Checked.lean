import TapeMachine.Machine.Operation

/-!
A machine on plain integers that takes nothing for granted: program, tape and stack are lists of
which it knows no bounds, and whoever looks outside of them, stores what is no byte or hands over an
argument of another type than asked for commits a breach.
-/

set_option autoImplicit false

namespace TapeMachine

/-- Why an operation is broken off. -/
inductive Breach
  | argument (fault : Value.Fault)
  | program (i : Int)
  | cell (i : Int)
  | loop (i : Int)
  | byte (n : Int)
  deriving DecidableEq

/-- The state of a machine on plain integers. -/
structure Checked where
  /-- The instructions with the stop mark at the end. -/
  program : List Opcode
  pc : Int
  /-- Where the bodies of the entered loops begin, the innermost loop last. -/
  loops : List Int
  capacity : Nat
  cells : List Int
  pointer : Int
  input : List Int
  output : List Int
  steps : Nat
  halted : Bool
  unmatched : Nat
  deriving DecidableEq

namespace Checked

section Access

variable {α : Type}

def entry (breach : Int → Breach) (entries : List α) (i : Int) : Except Breach α :=
  if i < 0 then .error (breach i)
  else
    match entries[i.toNat]? with
    | some a => .ok a
    | none => .error (breach i)

def replace (breach : Int → Breach) (entries : List α) (i : Int) (a : α) :
    Except Breach (List α) :=
  if 0 ≤ i ∧ i < entries.length then .ok (entries.set i.toNat a) else .error (breach i)

def byte (n : Int) : Except Breach Int := if 0 ≤ n ∧ n < 256 then .ok n else .error (.byte n)

def argument (known : Except Value.Fault α) : Except Breach α :=
  match known with
  | .ok a => .ok a
  | .error fault => .error (.argument fault)

def integer (v : Value) : Except Breach Int :=
  match v.integral? with
  | some n => .ok n
  | none => .error (.argument (.notComparable v.typeName))

def characters : Value → Except Breach (List Char)
  | .str text => .ok text.toList
  | v => .error (.argument (.notText v.typeName))

end Access

def new (capacity : Nat) : Checked where
  program := [.halt]
  pc := 0
  loops := []
  capacity := capacity
  cells := List.replicate capacity 0
  pointer := 0
  input := []
  output := []
  steps := 0
  halted := false
  unmatched := 0

def reset (k : Checked) : Checked :=
  { new k.capacity with program := k.program, input := k.input }

def load (ops : List Opcode) (k : Checked) : Checked :=
  reset { k with program := ops ++ [.halt] }

def feed (text : List Char) (k : Checked) : Checked :=
  reset { k with input := text.map fun c => (c.toNat : Int) % 256 }

def read (k : Checked) : Except Breach Int := entry .cell k.cells k.pointer

def write (n : Int) (k : Checked) : Except Breach Checked := do
  let b ← byte (n % 256)
  let cells ← replace .cell k.cells k.pointer b
  return { k with cells := cells }

def moveLeft (k : Checked) : Checked :=
  { k with pointer := if 0 < k.pointer then k.pointer - 1 else k.capacity - 1 }

def moveRight (k : Checked) : Checked :=
  { k with pointer := min (k.pointer + 1) (k.capacity - 1) }

/-- The first loop end from position `i` on that leaves none of `depth` open loops. -/
def closing? (program : List Opcode) (i depth : Int) : Except Breach (Option Int) :=
  if _inside : i < program.length then do
    match ← entry .program program i with
    | .loopStart => closing? program (i + 1) (depth + 1)
    | .loopEnd => if depth = 1 then return some i else closing? program (i + 1) (depth - 1)
    | _ => closing? program (i + 1) depth
  else return none
termination_by (program.length - i).toNat

def skipLoop (k : Checked) : Except Breach Checked := do
  match ← closing? k.program k.pc 1 with
  | some stop => return { k with pc := stop + 1 }
  | none => return { k with pc := k.program.length - 1 }

def execute (op : Opcode) (k : Checked) : Except Breach Checked :=
  match op with
  | .nop => return k
  | .inc => do k.write (((← k.read) + 1) % 256)
  | .dec => do k.write (((← k.read) - 1) % 256)
  | .ptrLeft => return k.moveLeft
  | .ptrRight => return k.moveRight
  | .read =>
    match k.input with
    | [] => k.write 0
    | b :: rest => { k with input := rest }.write b
  | .write => do
    let b ← k.read
    return { k with output := k.output ++ [b] }
  | .loopStart => do
    let b ← k.read
    if b = 0 then k.skipLoop else return { k with loops := k.loops ++ [k.pc] }
  | .loopEnd =>
    if k.loops = [] then return { k with unmatched := k.unmatched + 1 }
    else do
      let b ← k.read
      let body ← entry .loop k.loops (k.loops.length - 1)
      return if b = 0 then { k with loops := k.loops.dropLast } else { k with pc := body }
  | .halt => return { k with halted := true, pc := k.program.length }

def fetch (k : Checked) : Except Breach (Option (Opcode × Checked)) :=
  if k.program.length ≤ k.pc then return none
  else do
    let op ← entry .program k.program k.pc
    return some (op, { k with pc := k.pc + 1 })

def step (k : Checked) : Except Breach (Option (Opcode × Checked)) := do
  match ← k.fetch with
  | none => return none
  | some (op, fetched) =>
    let worked ← fetched.execute op
    -- The log shows the cell after each step.
    let _ ← worked.read
    return some (op, { worked with steps := worked.steps + 1 })

/-- Take up to `n` steps, but none once the machine has halted. -/
def advance : Nat → Checked → Except Breach Checked
  | 0, k => return k
  | n + 1, k => do
    match ← k.step with
    | none => return k
    | some (_, next) => if next.halted then return next else advance n next

def run (limit : Int) (k : Checked) : Except Breach (Outcome × Checked) := do
  let last ← k.reset.advance limit.toNat
  let ended := last.halted ∨ last.program.length ≤ last.pc
  return (if ended then .halted else .limit, last)

/-- What is asked of a machine on plain integers; its limits are integers too. -/
def apply (operation : Operation) (k : Checked) : Except Breach (Reply × Checked) :=
  match operation with
  | .loadTokens tokens => do return (.done, k.load (← argument tokens.toOpcodes))
  | .loadCodes codes => do return (.done, k.load (← argument codes.codesToOpcodes))
  | .loadInput text => do return (.done, k.feed (← characters text))
  | .reset => return (.done, k.reset)
  | .fetch => do
    match ← k.fetch with
    | some (op, next) => return (.instruction (some op), next)
    | none => return (.instruction none, k)
  | .execute code =>
    match Opcode.ofCode? code with
    | some op => do return (.done, ← k.execute op)
    | none => return (.done, k)
  | .step => do
    match ← k.step with
    | some (op, next) => return (.instruction (some op), next)
    | none => return (.instruction none, k)
  | .run limit => do
    let (outcome, last) ← k.run (← integer limit)
    return (.ended outcome, last)
  | .store v => do return (.done, ← k.write (← argument v.toInt))
  | .moveLeft => return (.done, k.moveLeft)
  | .moveRight => return (.done, k.moveRight)
  | .resetTape =>
    return (.done, { k with cells := List.replicate k.capacity 0, pointer := 0 })

/-- Do one operation after the other, until one of them is broken off. -/
def serve : List Operation → Checked → Except Breach (List Reply × Checked)
  | [], k => return ([], k)
  | operation :: rest, k => do
    let (reply, next) ← k.apply operation
    let (replies, last) ← next.serve rest
    return (reply :: replies, last)

/-- All places that the machine keeps lie where it can look, all numbers it keeps are bytes. -/
structure InBounds (k : Checked) : Prop where
  program : k.program.getLast? = some .halt
  pc : 0 ≤ k.pc ∧ k.pc ≤ k.program.length
  loops : ∀ body ∈ k.loops, 0 ≤ body ∧ body ≤ k.program.length
  cells : k.cells.length = k.capacity
  pointer : 0 ≤ k.pointer ∧ k.pointer < k.capacity
  bytes : ∀ n ∈ k.cells ++ k.output ++ k.input, 0 ≤ n ∧ n < 256

end Checked

end TapeMachine
