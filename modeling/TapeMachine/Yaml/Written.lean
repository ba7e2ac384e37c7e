import TapeMachine.Yaml.Graph

set_option autoImplicit false

namespace TapeMachine.Yaml

/-- A document as it is written. -/
inductive Written
  /-- The object that carries a number. -/
  | alias (number : Nat)
  | scalar (number? : Option Nat) (v : Value)
  | sequence (number? : Option Nat) (items : List Written)
  /-- The flag tells that only the keys count. -/
  | mapping (number? : Option Nat) (isSet : Bool) (entries : List (Written × Written))

namespace Written

def null : Written := .scalar none .null

mutual

/-- A value of which nothing is shared, with a number for the whole. -/
def ofValue (number? : Option Nat) : Value → Written
  | .list items => .sequence number? (ofItems items)
  | .map entries => .mapping number? false (ofEntries entries)
  | .set items => .mapping number? true (ofMembers items)
  | .pair first second => .sequence number? [ofValue none first, ofValue none second]
  | v => .scalar number? v

def ofItems : List Value → List Written
  | [] => []
  | v :: rest => ofValue none v :: ofItems rest

def ofMembers : List Value → List (Written × Written)
  | [] => []
  | v :: rest => (ofValue none v, null) :: ofMembers rest

def ofEntries : List (Value × Value) → List (Written × Written)
  | [] => []
  | (key, value) :: rest => (ofValue none key, ofValue none value) :: ofEntries rest

end

mutual

def all (p : Value → Bool) : Written → Bool
  | .alias _ => true
  | .scalar _ v => p v
  | .sequence _ items => allItems p items
  | .mapping _ _ entries => allEntries p entries

def allItems (p : Value → Bool) : List Written → Bool
  | [] => true
  | item :: rest => all p item && allItems p rest

def allEntries (p : Value → Bool) : List (Written × Written) → Bool
  | [] => true
  | (key, value) :: rest => all p key && all p value && allEntries p rest

end

end Written

def Object.isNamed : Object → Bool
  | .leaf (.date _) => true
  | .leaf (.timestamp _) => true
  | .leaf _ => false
  | _ => true

namespace Graph

/-- The objects that have been met, and the numbers of those that have been met again. -/
structure Numbering where
  met : Array Bool
  numbers : Array (Option Nat)
  last : Nat

/-- Number the objects that occur more than once, in the order in which they occur again. -/
def number (g : Graph) : (fuel : Nat) → (n : Nat) → Numbering → Numbering
  | 0, _, s => s
  | fuel + 1, n, s =>
    let o := g.object n
    if !o.isNamed then s
    else if s.met.getD n false then
      if (s.numbers.getD n none).isSome then s
      else { s with numbers := s.numbers.setIfInBounds n (some (s.last + 1)), last := s.last + 1 }
    else
      let s := { s with met := s.met.setIfInBounds n true }
      o.parts.foldl (fun s part => g.number fuel part s) s

def writePair (write : Nat → StateM (Array Bool) Written) (entry : Nat × Nat) :
    StateM (Array Bool) (Written × Written) := do
  let first ← write entry.1
  return (first, ← write entry.2)

/-- Write an object; one that has been written before is only named. -/
def write (g : Graph) (numbers : Array (Option Nat)) :
    (fuel : Nat) → (n : Nat) → StateM (Array Bool) Written
  | 0, _ => return .null
  | fuel + 1, n => do
    let number? := numbers.getD n none
    match number?, (← get).getD n false with
    | some number, true => return .alias number
    | _, _ =>
      modify fun written => written.setIfInBounds n true
      match g.object n with
      | .leaf v => return .ofValue number? v
      | .list items => return .sequence number? (← items.mapM (g.write numbers fuel))
      | .map entries =>
        return .mapping number? false (← entries.mapM (writePair (g.write numbers fuel)))
      | .set items =>
        let members ← items.mapM (g.write numbers fuel)
        return .mapping number? true (members.map fun member => (member, .null))
      | .pairs entries =>
        let pairs ← entries.mapM (writePair (g.write numbers fuel))
        return .sequence number? (pairs.map fun (first, second) => .sequence none [first, second])

def written (g : Graph) : Written :=
  let size := g.objects.size
  let start : Numbering := ⟨Array.replicate size false, Array.replicate size none, 0⟩
  let numbering := g.number (size + 1) g.root start
  ((g.write numbering.numbers (size + 1) g.root).run (Array.replicate size false)).1

end Graph

end TapeMachine.Yaml
