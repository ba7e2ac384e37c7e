import TapeMachine.Value.Members
import TapeMachine.Yaml.Graph
import TapeMachine.Yaml.Node

/-!
The value of a document: scalars by their type, sequences, and mappings of which one may take over
the entries of others. A collection is an object before its parts are known, so it may be a part of
itself; its parts are evaluated after all that was begun before them. So of several faults the one
that lies least deep is met.
-/

set_option autoImplicit false

namespace TapeMachine.Yaml

/-- How far the nodes of a document have been evaluated. -/
structure Evaluation where
  nodes : Array Node
  /-- The object of a node stands at the place of the node, if the node has one of its own. -/
  objects : Array Object
  /-- The objects of the nodes that have been evaluated. -/
  places : Array (Option Nat)
  /-- The object that all words for the value that is not a number stand for. -/
  nan? : Option Nat
  /-- The collections whose parts have not been evaluated, the last one first. -/
  waiting : List Nat
  /-- A bound for how many steps of taking over entries can follow each other. -/
  takings : Nat

abbrev Evaluating := StateT Evaluation (Except Fault)

namespace Evaluating

def node (n : Nat) : Evaluating Node := return (← get).nodes.getD n .missing

def object (n : Nat) : Evaluating Object := return (← get).objects.getD n (.leaf .null)

def place (n : Nat) (o : Object) : Evaluating Nat := do
  modify fun s =>
    { s with
      objects := s.objects.setIfInBounds n o
      places := s.places.setIfInBounds n (some n) }
  return n

def setEntries (n : Nat) (entries : List (Nat × Nat)) : Evaluating Unit :=
  modify fun s => { s with nodes := s.nodes.modify n fun node => ⟨node.tag, .mapping entries⟩ }

def entriesOf (n : Nat) : Evaluating (List (Nat × Nat)) := do
  match (← node n).content with
  | .mapping entries => return entries
  | _ => throw .malformed

def itemsOf (n : Nat) : Evaluating (List Nat) := do
  match (← node n).content with
  | .sequence items => return items
  | _ => throw .malformed

/-- The text of a node that stands for a scalar, be it the default value of a mapping. -/
def textOf (nodes : Array Node) : (fuel : Nat) → (n : Nat) → Except Fault String
  | 0, _ => .error .tooDeep
  | fuel + 1, n =>
    match (nodes.getD n .missing).content with
    | .scalar text => .ok text
    | .sequence _ => .error .malformed
    | .mapping entries =>
      match entries.find? fun entry => (nodes.getD entry.1 .missing).tag = .default with
      | some (_, value) => textOf nodes fuel value
      | none => .error .malformed

def scalarValue (n : Nat) : Evaluating Value := do
  let s ← get
  let node ← node n
  let text ← textOf s.nodes (s.nodes.size + 1) n
  match node.tag, node.content with
  | .timestamp, .mapping _ => throw .timestampOfMapping
  | tag, _ => Scalar.read tag text.toList

/-- Whether a node is a word for the value that is not a number. -/
def isNanWord (n : Nat) : Evaluating Bool := do
  let s ← get
  match (← node n).tag with
  | .float =>
    let text ← textOf s.nodes (s.nodes.size + 1) n
    return Scalar.isNanWord text.toList
  | _ => return false

/-- The object of a node; the parts of a collection come later. -/
def evaluate (n : Nat) : Evaluating Nat := do
  let s ← get
  if let some o := s.places.getD n none then return o
  let begin := fun (empty : Object) => do
    modify fun s => { s with waiting := n :: s.waiting }
    place n empty
  match (← node n).tag with
  | .list => begin (.list [])
  | .map => begin (.map [])
  | .set => begin (.set [])
  | .orderedMap => begin (.pairs [])
  | .pairs => begin (.pairs [])
  | _ =>
    let v ← scalarValue n
    match ← isNanWord n, s.nan? with
    | true, some o =>
      modify fun s => { s with places := s.places.setIfInBounds n (some o) }
      return o
    | true, none =>
      modify fun s => { s with nan? := some n }
      place n (.leaf v)
    | false, _ => place n (.leaf v)

mutual

/--
Let a mapping take over the entries that others give it, which come before its own. The entries
before `start` have been looked at, and `taken` have been taken over so far.
-/
def takeOver : (fuel : Nat) → (n start : Nat) → (taken : List (Nat × Nat)) → Evaluating Unit
  | 0, _, _, _ => return
  | fuel + 1, n, start, taken => do
    let entries ← entriesOf n
    let s ← get
    let tagOf := fun (key : Nat) => (s.nodes.getD key .missing).tag
    let (plain, rest) := (entries.drop start).span fun entry => tagOf entry.1 ≠ .merge
    plain.forM fun (key, _) =>
      if tagOf key = .default then
        modify fun s => { s with nodes := s.nodes.modify key fun node => ⟨.str, node.content⟩ }
      else return
    match rest with
    | [] => if taken.isEmpty then return else setEntries n (taken ++ entries)
    | (_, giver) :: after =>
      setEntries n (entries.take (start + plain.length) ++ after)
      let more ← givenBy fuel giver
      takeOver fuel n (start + plain.length) (taken ++ more)

/-- The entries that a mapping or each of several mappings gives away; earlier ones count more. -/
def givenBy : (fuel : Nat) → (giver : Nat) → Evaluating (List (Nat × Nat))
  | 0, _ => return []
  | fuel + 1, giver => do
    match (← node giver).content with
    | .mapping _ =>
      takeOver fuel giver 0 []
      entriesOf giver
    | .sequence items =>
      let all ← items.mapM fun item => do
        let _ ← entriesOf item
        takeOver fuel item 0 []
        entriesOf item
      return all.reverse.flatten
    | .scalar _ => throw .malformed

end

def allEntries (n : Nat) : Evaluating (List (Nat × Nat)) := do
  let _ ← entriesOf n
  takeOver (← get).takings n 0 []
  entriesOf n

/-- Whether two objects are the same key: one object, or scalars that are equal. -/
def isSameKey (s : Evaluation) (a b : Nat) : Bool :=
  a = b ||
    match s.objects.getD a (.leaf .null), s.objects.getD b (.leaf .null) with
    | .leaf v, .leaf w => v.sameKey w
    | _, _ => false

/-- Put an object under a key: a key that is there keeps its place and its spelling. -/
def put (key value : Nat) (entries : Array (Nat × Nat)) : Evaluating (Array (Nat × Nat)) := do
  let s ← get
  match entries.findIdx? fun entry => isSameKey s entry.1 key with
  | some i => return entries.modify i fun entry => (entry.1, value)
  | none => return entries.push (key, value)

/-- The entries of a mapping as objects; no collection is a key. -/
def entryObjects (n : Nat) : Evaluating (List (Nat × Nat)) := do
  let result ← (← allEntries n).foldlM
    (fun (kept : Array (Nat × Nat)) (key, value) => do
      let k ← evaluate key
      if (← object k).isCollection then throw .malformed
      put k (← evaluate value) kept)
    #[]
  return result.toList

def memberObjects (n : Nat) : Evaluating (List Nat) := do
  let keys := (← entryObjects n).map Prod.fst
  let s ← get
  let valueOf := fun (key : Nat) => (s.objects.getD key (.leaf .null)).unfold fun _ => .null
  return Value.inSetOrder valueOf keys

/-- What an entry of an ordered mapping has to be: a mapping of one key. -/
def singleEntry (n : Nat) : Evaluating (Nat × Nat) := do
  match ← entriesOf n with
  | [(key, value)] => return (← evaluate key, ← evaluate value)
  | _ => throw .malformed

def complete (n : Nat) : Evaluating Unit := do
  let o ← match (← node n).tag with
    | .list => pure (Object.list (← (← itemsOf n).mapM evaluate))
    | .map => pure (Object.map (← entryObjects n))
    | .set => pure (Object.set (← memberObjects n))
    | _ => pure (Object.pairs (← (← itemsOf n).mapM singleEntry))
  let _ ← place n o

/-- Evaluate the parts of all collections that wait, then those of the collections among them. -/
def completeAll : (fuel : Nat) → Evaluating Unit
  | 0 => return
  | fuel + 1 => do
    let waiting := (← get).waiting
    if waiting.isEmpty then return
    modify fun s => { s with waiting := [] }
    waiting.reverse.forM complete
    completeAll fuel

def whole (root : Nat) : Evaluating Nat := do
  let o ← evaluate root
  completeAll ((← get).nodes.size + 1)
  return o

end Evaluating

/-- Each step of taking over removes an entry, so twice their number bounds the steps. -/
def takingBound (nodes : Array Node) : Nat :=
  nodes.foldl
    (fun count node =>
      match node.content with
      | .mapping entries => count + 2 * entries.length
      | _ => count)
    2

def Graph.ofNodes (nodes : Array Node) (root : Nat) : Except Fault Graph := do
  let start : Evaluation :=
    { nodes := nodes
      objects := nodes.map fun _ => .leaf .null
      places := nodes.map fun _ => none
      nan? := none
      waiting := []
      takings := takingBound nodes }
  let (root, s) ← (Evaluating.whole root).run start
  return ⟨s.objects, root⟩

/-- A document that has been read. -/
inductive Document
  /-- A value of which nothing is shared. -/
  | tree (v : Value)
  /-- A value of which parts are shared. -/
  | web (g : Graph)

namespace Document

def value : Document → Value
  | tree v => v
  | web g => g.value

/-- The only document of a text; a text without a document means nothing. -/
def ofArrival (text : Arrival) : Except Fault Document := do
  match ← Nodes.ofArrival? text with
  | none => return .tree .null
  | some nodes =>
    let g ← Graph.ofNodes nodes.nodes nodes.root
    return if nodes.aliased then .web g else .tree g.value

def ofBytes (bytes : List UInt8) : Except Fault Document := ofArrival (.ofBytes bytes)

def ofText (text : List Char) : Except Fault Document := ofArrival (.ofText text)

end Document

end TapeMachine.Yaml
