import TapeMachine.Config.Loading
import TapeMachine.Text.Search
import TapeMachine.Yaml.Written

set_option autoImplicit false

namespace TapeMachine.Record

def sourceKey : String := "in_source"

def inputKey : String := "in_stdin"

def configKey : String := "in_config"

def resultKey : String := "out"

def entriesOf : Value → Except RecordFault Value.Entries
  | .map entries => .ok entries
  | v => .error (.notMapping v.typeName)

/-- The configuration value of a record: one that counts as false is an empty mapping. -/
def configOf (entries : Value.Entries) : Value :=
  match entries.get? configKey with
  | some v => if v.isTruthy then v else .map []
  | none => .map []

def inputOf (entries : Value.Entries) : Value := (entries.get? inputKey).getD (.str "")

def run (d : Directory) (record : Value) : Except Failure (Outcome × Machine) := do
  let entries ← (entriesOf record).mapError .record
  let c ← Config.load d (configOf entries)
  let m ← (Machine.ofCapacity c.memoryCells).mapError .tape
  let source ← match entries.get? sourceKey with
    | some v => pure v
    | none => throw (.record .noSource)
  let m ← (m.loadTokens source).mapError .value
  let m ← (m.loadInput (inputOf entries)).mapError .value
  match m.run c.stepLimit with
  | some result => return result
  | none => throw .endless

/-- The cells that are not zero, by their indices from `index` on. -/
def nonZeroCells : (index : Nat) → List UInt8 → Value.Entries
  | _, [] => []
  | index, cell :: rest =>
    if cell = 0 then nonZeroCells (index + 1) rest
    else (.int index, .int cell.toNat) :: nonZeroCells (index + 1) rest

def observed (outcome : Outcome) (m : Machine) : Value.Entries :=
  [(.str "out_stdout", .str m.outputText),
    (.str "out_bytes", .list (m.output.toList.map fun b => .int b.toNat)),
    (.str "pointer", .int m.tape.pointer),
    (.str "pc", .int m.pc),
    (.str "steps", .int m.steps),
    (.str "state", .str outcome.name),
    (.str "unmatched_loop_ends", .int m.unmatched),
    (.str "memory", .map (nonZeroCells 0 m.tape.cells.toList))]

def hasSource : Value → Except RecordFault Bool
  | .map entries => .ok (Value.Entries.get? sourceKey entries).isSome
  | .list items => .ok (items.any fun v => v.sameKey (.str sourceKey))
  | .set items => .ok (items.any fun v => v.sameKey (.str sourceKey))
  | .pair first second => .ok ([first, second].any fun v => v.sameKey (.str sourceKey))
  | .str text => .ok (Text.occursIn sourceKey.toList text.toList)
  | .bytes _ => .error .bytesOnly
  | v => .error (.notContainer v.typeName)

/-- The results of a record with what was observed, as far as the results have fields. -/
def withObserved (target : Value) (seen : Value.Entries) : Except RecordFault Value.Entries :=
  match target with
  | .map entries =>
    .ok (seen.foldl (fun kept entry => Value.Entries.put entry.1 entry.2 kept) entries)
  | .list _ => .error .numberedOnly
  | v => .error (.notAssignable v.typeName)

/-- A record with its results; results that are not there yet are put behind the other entries. -/
def withResults (entries seen : Value.Entries) : Except RecordFault Value.Entries := do
  let target := (entries.get? resultKey).getD (.map [])
  return entries.put (.str resultKey) (.map (← withObserved target seen))

def fieldCount (entries : Value.Entries) : Nat :=
  match entries.get? resultKey with
  | some (.map fields) => fields.length
  | _ => 0

/-- The object of a record's results; it is made if it is not there yet. -/
def resultObject (g : Yaml.Graph) : Nat × Yaml.Graph :=
  match g.object g.root with
  | .map entries =>
    match g.under? resultKey entries with
    | some n => (n, g)
    | none =>
      let (n, added) := g.add (.map [])
      let (more, named) := added.putUnder resultKey n entries
      (n, named.replace g.root (.map more))
  | _ => (g.root, g)

def putObserved (n : Nat) (seen : Value.Entries) (g : Yaml.Graph) : Yaml.Graph :=
  seen.foldl
    (fun g entry =>
      match g.object n, entry.1 with
      | .map fields, .str name =>
        let (value, added) := g.add (.leaf entry.2)
        let (more, named) := added.putUnder name value fields
        named.replace n (.map more)
      | _, _ => g)
    g

/-- A record of shared parts with its results, and how many fields they have. -/
def withSharedResults (g : Yaml.Graph) (seen : Value.Entries) :
    Except RecordFault (Yaml.Graph × Nat) :=
  let (n, made) := resultObject g
  match made.object n with
  | .map _ =>
    let filled := putObserved n seen made
    match filled.object n with
    | .map fields => .ok (filled, fields.length)
    | _ => .ok (filled, 0)
  | .list _ => .error .numberedOnly
  | .pairs _ => .error .numberedOnly
  | .set items => .error (.notAssignable (Value.set (items.map fun _ => .null)).typeName)
  | .leaf v => .error (.notAssignable v.typeName)

/-- What is written of a record with its results, and how many fields they have. -/
def filled (document : Yaml.Document) (seen : Value.Entries) :
    Except RecordFault (Yaml.Written × Nat) := do
  match document with
  | .tree v =>
    let entries ← withResults (← entriesOf v) seen
    return (.ofValue none (.map entries), fieldCount entries)
  | .web g =>
    let (g, count) ← withSharedResults g seen
    return (g.written, count)

end TapeMachine.Record
