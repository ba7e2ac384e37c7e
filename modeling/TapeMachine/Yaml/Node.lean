import TapeMachine.Yaml.Schema
import TapeMachine.Yaml.Token.Stream

set_option autoImplicit false

namespace TapeMachine.Yaml

/-- What a node holds; other nodes are given by their numbers. -/
inductive Content
  | scalar (text : String)
  | sequence (items : List Nat)
  | mapping (entries : List (Nat × Nat))

/-- A scalar, a sequence or a mapping with its type. -/
structure Node where
  tag : Tag
  content : Content

namespace Node

def spokenTag : Option String → Option String
  | some "!" => none
  | tag => tag

/-- A scalar; the flag tells whether the text itself decides the type when there is no tag. -/
def scalar (tag : Option String) (decides : Bool) (text : String) : Node where
  tag := match spokenTag tag with
    | some uri => .ofUri uri
    | none => if decides then .ofPlain text.toList else .str
  content := .scalar text

def sequence (tag : Option String) (items : List Nat) : Node :=
  ⟨((spokenTag tag).map Tag.ofUri).getD .list, .sequence items⟩

def mapping (tag : Option String) (entries : List (Nat × Nat)) : Node :=
  ⟨((spokenTag tag).map Tag.ofUri).getD .map, .mapping entries⟩

def missing : Node := scalar none true ""

end Node

/-- The nodes of a document and the number of its root. -/
structure Nodes where
  nodes : Array Node
  root : Nat
  /-- Whether some node is named by an alias. -/
  aliased : Bool

abbrev Handles := List (String × String)

def Handles.standard : Handles := [("!", "!"), ("!!", "tag:yaml.org,2002:")]

def Handles.resolve (handles : Handles) (name : TagName) : Except Fault String :=
  match name.handle? with
  | none => .ok name.suffix
  | some handle =>
    match handles.find? fun entry => entry.1 == handle with
    | some (_, uri) => .ok (uri ++ name.suffix)
    | none => .error .malformed

/-- What is left of a document, and the nodes and anchors so far. -/
structure Composer where
  lexer : Lexer
  nodes : Array Node
  anchors : List (String × Nat)
  aliased : Bool
  /-- How many collections are open. -/
  depth : Nat

abbrev Composing := StateT Composer (Except Fault)

namespace Composing

def peek : Composing Token := do
  let s ← get
  let (token, lexer) ← s.lexer.peek
  set { s with lexer := lexer }
  return token

def skip : Composing Unit := modify fun s => { s with lexer := s.lexer.next }

def isAt (tokens : List Token) : Composing Bool := return tokens.contains (← peek)

/-- Add a node under an anchor, if one is given; returns its number. -/
def add (name? : Option String) (node : Node) : Composing Nat :=
  modifyGet fun s =>
    let n := s.nodes.size
    let anchors := match name? with
      | some name => (name, n) :: s.anchors
      | none => s.anchors
    (n, { s with nodes := s.nodes.push node, anchors := anchors })

def complete (n : Nat) (node : Node) : Composing Nat := do
  modify fun s => { s with nodes := s.nodes.setIfInBounds n node, depth := s.depth - 1 }
  return n

def maxDepth : Nat := 485

def begin (name? : Option String) (node : Node) : Composing Nat := do
  if maxDepth < (← get).depth then throw .tooDeep
  modify fun s => { s with depth := s.depth + 1 }
  add name? node

def resolve (name : String) : Composing Nat := do
  match (← get).anchors.find? fun entry => entry.1 == name with
  | some (_, n) =>
    modify fun s => { s with aliased := true }
    return n
  | none => throw .malformed

def refuseKnown (name? : Option String) : Composing Unit := do
  match name? with
  | some name => if (← get).anchors.any fun entry => entry.1 == name then throw .malformed
  | none => return

def anchor? : Composing (Option String) := do
  match ← peek with
  | .anchor name =>
    skip
    return some name
  | _ => return none

def tag? : Composing (Option TagName) := do
  match ← peek with
  | .tag name =>
    skip
    return some name
  | _ => return none

/-- Read an anchor and a tag in either order, where each may be missing. -/
def properties : Composing (Option String × Option TagName) := do
  match ← anchor? with
  | some name => return (some name, ← tag?)
  | none =>
    match ← tag? with
    | some tag => return (← anchor?, some tag)
    | none => return (none, none)

mutual

/--
Read a node. `block` allows collections that are shown by indentation, `indentless` also a sequence
that is indented no more than the key before it.
-/
def readNode (handles : Handles) (block indentless : Bool) : (fuel : Nat) → Composing Nat
  | 0 => throw .malformed
  | fuel + 1 => do
    if let .alias name ← peek then
      skip
      return ← resolve name
    let (name?, tagName?) ← properties
    let tag ← tagName?.mapM fun name => handles.resolve name
    let token ← peek
    refuseKnown name?
    match token, block, indentless with
    | .scalar text isPlain, _, _ =>
      skip
      add name? (.scalar tag (isPlain && tag.isNone || tag == some "!") text)
    | .flowSequenceStart, _, _ =>
      let n ← begin name? (.sequence tag [])
      skip
      complete n (.sequence tag (← readFlowItems handles fuel []))
    | .flowMappingStart, _, _ =>
      let n ← begin name? (.mapping tag [])
      skip
      complete n (.mapping tag (← readFlowEntries handles fuel []))
    | .sequenceStart, true, _ =>
      let n ← begin name? (.sequence tag [])
      skip
      complete n (.sequence tag (← readItems handles fuel []))
    | .mappingStart, true, _ =>
      let n ← begin name? (.mapping tag [])
      skip
      complete n (.mapping tag (← readEntries handles fuel []))
    | .entry, _, true =>
      let n ← begin name? (.sequence tag [])
      complete n (.sequence tag (← readIndentlessItems handles fuel []))
    | _, _, _ =>
      if name?.isNone && tag.isNone then throw .malformed
      else add name? (.scalar tag (Node.spokenTag tag).isNone "")

/-- Read a node unless one of some tokens shows that it is missing. -/
def readUnless (handles : Handles) (missing : List Token) (block indentless : Bool) :
    (fuel : Nat) → Composing Nat
  | 0 => throw .malformed
  | fuel + 1 => do
    if ← isAt missing then add none .missing else readNode handles block indentless fuel

/-- Read the items of a sequence that is shown by indentation, and its end, behind some items. -/
def readItems (handles : Handles) : (fuel : Nat) → (items : List Nat) → Composing (List Nat)
  | 0, _ => throw .malformed
  | fuel + 1, items => do
    match ← peek with
    | .entry =>
      skip
      let item ← readUnless handles [.entry, .blockEnd] true false fuel
      readItems handles fuel (item :: items)
    | .blockEnd =>
      skip
      return items.reverse
    | _ => throw .malformed

/-- Read the items of a sequence that has no indentation of its own, behind some items. -/
def readIndentlessItems (handles : Handles) :
    (fuel : Nat) → (items : List Nat) → Composing (List Nat)
  | 0, _ => throw .malformed
  | fuel + 1, items => do
    match ← peek with
    | .entry =>
      skip
      let item ← readUnless handles [.entry, .key, .value, .blockEnd] true false fuel
      readIndentlessItems handles fuel (item :: items)
    | _ => return items.reverse

/-- Read the entries of a mapping that is shown by indentation, and its end, behind some entries. -/
def readEntries (handles : Handles) :
    (fuel : Nat) → (entries : List (Nat × Nat)) → Composing (List (Nat × Nat))
  | 0, _ => throw .malformed
  | fuel + 1, entries => do
    match ← peek with
    | .key =>
      skip
      let missing := [Token.key, .value, .blockEnd]
      let key ← readUnless handles missing true true fuel
      let value ← readValue handles missing true fuel
      readEntries handles fuel ((key, value) :: entries)
    | .blockEnd =>
      skip
      return entries.reverse
    | _ => throw .malformed

/-- Read the value of a key, which is missing unless its sign is here. -/
def readValue (handles : Handles) (missing : List Token) (block : Bool) :
    (fuel : Nat) → Composing Nat
  | 0 => throw .malformed
  | fuel + 1 => do
    if ← isAt [.value] then
      skip
      readUnless handles missing block block fuel
    else add none .missing

/--
Read the items of a sequence in brackets, and its end, behind some items. All but the first stand
behind commas, and a pair may stand without brackets.
-/
def readFlowItems (handles : Handles) : (fuel : Nat) → (items : List Nat) → Composing (List Nat)
  | 0, _ => throw .malformed
  | fuel + 1, items => do
    if !items.isEmpty then
      match ← peek with
      | .flowSequenceEnd => pure ()
      | .flowEntry => skip
      | _ => throw .malformed
    match ← peek with
    | .flowSequenceEnd =>
      skip
      return items.reverse
    | .key =>
      let n ← begin none (.mapping none [])
      skip
      let key ← readUnless handles [.value, .flowEntry, .flowSequenceEnd] false false fuel
      let value ← readValue handles [.flowEntry, .flowSequenceEnd] false fuel
      let item ← complete n (.mapping none [(key, value)])
      readFlowItems handles fuel (item :: items)
    | _ =>
      let item ← readNode handles false false fuel
      readFlowItems handles fuel (item :: items)

/--
Read the entries of a mapping in braces, and its end, behind some entries. All but the first stand
behind commas, and a value may be missing.
-/
def readFlowEntries (handles : Handles) :
    (fuel : Nat) → (entries : List (Nat × Nat)) → Composing (List (Nat × Nat))
  | 0, _ => throw .malformed
  | fuel + 1, entries => do
    if !entries.isEmpty then
      match ← peek with
      | .flowMappingEnd => pure ()
      | .flowEntry => skip
      | _ => throw .malformed
    match ← peek with
    | .flowMappingEnd =>
      skip
      return entries.reverse
    | .key =>
      skip
      let key ← readUnless handles [.value, .flowEntry, .flowMappingEnd] false false fuel
      let value ← readValue handles [.flowEntry, .flowMappingEnd] false fuel
      readFlowEntries handles fuel ((key, value) :: entries)
    | _ =>
      let key ← readNode handles false false fuel
      let value ← add none .missing
      readFlowEntries handles fuel ((key, value) :: entries)

end

def readDirectives : (fuel : Nat) → (versioned : Bool) → Handles → Composing Handles
  | 0, _, _ => throw .malformed
  | fuel + 1, versioned, handles => do
    match ← peek with
    | .versionDirective major =>
      if versioned || major ≠ 1 then throw .malformed
      skip
      readDirectives fuel true handles
    | .handleDirective handle uri =>
      if handles.any fun entry => entry.1 == handle then throw .malformed
      skip
      readDirectives fuel versioned ((handle, uri) :: handles)
    | .otherDirective =>
      skip
      readDirectives fuel versioned handles
    | _ => return handles

def skipEnds : (fuel : Nat) → Composing Unit
  | 0 => return
  | fuel + 1 => do
    if ← isAt [.documentEnd] then
      skip
      skipEnds fuel

def isDirective : Token → Bool
  | .versionDirective _ => true
  | .handleDirective .. => true
  | .otherDirective => true
  | _ => false

/-- Read the directives and the mark before a document; none if there is no more document. -/
def readStart (fuel : Nat) : Composing (Option Handles) := do
  skipEnds fuel
  if ← isAt [.streamEnd] then return none
  let handles ← readDirectives fuel false []
  if ← isAt [.documentStart] then
    skip
    return some (handles ++ Handles.standard)
  else throw .malformed

def readContent (handles : Handles) (fuel : Nat) : Composing Nat := do
  let token ← peek
  if isDirective token || [.documentStart, .documentEnd, .streamEnd].contains token then
    add none .missing
  else readNode handles true false fuel

/-- Read the first document, which needs no mark; there may be none. -/
def readFirst (fuel : Nat) : Composing (Option Nat) := do
  let token ← peek
  if isDirective token || [.documentStart, .streamEnd].contains token then
    match ← readStart fuel with
    | some handles => return some (← readContent handles fuel)
    | none => return none
  else return some (← readNode Handles.standard true false fuel)

/-- Read the only document; there may be none. -/
def readOnly (fuel : Nat) : Composing (Option Nat) := do
  let root ← readFirst fuel
  match ← readStart fuel with
  | some _ => throw .malformed
  | none => return root

end Composing

/-- The nodes of the only document of a text; none if the text has no document. -/
def Nodes.ofArrival? (text : Arrival) : Except Fault (Option Nodes) := do
  let cursor ← Cursor.start text
  let fuel := 16 * cursor.size + 64
  let start : Composer := ⟨.start cursor, #[], [], false, 0⟩
  let (root?, s) ← (Composing.readOnly fuel).run start
  return root?.map fun root => ⟨s.nodes, root, s.aliased⟩

end TapeMachine.Yaml
