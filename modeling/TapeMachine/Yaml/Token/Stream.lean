import TapeMachine.Yaml.Token.Mark

/-!
The token stream of a document, read only as far as it is asked for. Indentation opens and closes
block collections. A scalar, a collection in brackets or an alias may turn out to be a key only when
a colon follows on its line, so the place of every such candidate is remembered until then, and the
tokens from there on wait in a queue.
-/

set_option autoImplicit false

namespace TapeMachine.Yaml

/-- A place where a key may have begun. -/
structure KeyCandidate where
  /-- How many tokens stand before the key. -/
  position : Nat
  /-- Whether the document is broken unless a colon follows. -/
  required : Bool
  index : Nat
  line : Nat
  column : Nat

/-- How far a text has been divided into tokens. -/
structure Lexer where
  cursor : Cursor
  /-- The tokens that have been read and not taken. -/
  queue : List Token
  /-- How many tokens have been taken. -/
  taken : Nat
  /-- Whether the end of the text has been read. -/
  finished : Bool
  /-- How many brackets are open. -/
  flowLevel : Nat
  /-- The column of the innermost block collection, `-1` outside of any. -/
  indent : Int
  outerIndents : List Int
  keyAllowed : Bool
  /-- At most one candidate for each number of open brackets. -/
  candidates : List (Nat × KeyCandidate)

namespace Lexer

def start (cursor : Cursor) : Lexer where
  cursor := cursor
  queue := []
  taken := 0
  finished := false
  flowLevel := 0
  indent := -1
  outerIndents := []
  keyAllowed := true
  candidates := []

def push (token : Token) (s : Lexer) : Lexer := { s with queue := s.queue ++ [token] }

def emit (token : Token) (cursor : Cursor) (s : Lexer) : Lexer :=
  { s with queue := s.queue ++ [token], cursor := cursor }

/-- The longest key that needs no mark of its own, in characters. -/
def maxKeyLength : Nat := 1024

/-- Whether a candidate is on an earlier line or has become too long. -/
def isStale (s : Lexer) (candidate : KeyCandidate) : Bool :=
  candidate.line != s.cursor.line || decide (maxKeyLength < s.cursor.index - candidate.index)

def dropStale (s : Lexer) : Except Fault Lexer :=
  if s.candidates.any fun entry => s.isStale entry.2 && entry.2.required then .error .malformed
  else .ok { s with candidates := s.candidates.filter fun entry => !s.isStale entry.2 }

/-- Give up the candidate among the brackets that are open now. -/
def dropCandidate (s : Lexer) : Except Fault Lexer :=
  if s.candidates.any fun entry => entry.1 == s.flowLevel && entry.2.required then
    .error .malformed
  else .ok { s with candidates := s.candidates.filter fun entry => entry.1 != s.flowLevel }

def addCandidate (s : Lexer) : Except Fault Lexer :=
  if s.keyAllowed then do
    let s ← s.dropCandidate
    let candidate : KeyCandidate :=
      { position := s.taken + s.queue.length
        required := s.flowLevel == 0 && s.indent == s.cursor.column
        index := s.cursor.index
        line := s.cursor.line
        column := s.cursor.column }
    return { s with candidates := (s.flowLevel, candidate) :: s.candidates }
  else .ok s

/-- Close the block collections that are indented more than a column. -/
def closeBlocks (column : Int) : List Int → Lexer → Lexer
  | outer :: rest, s =>
    if s.flowLevel = 0 ∧ column < s.indent then
      closeBlocks column rest { s.push .blockEnd with indent := outer, outerIndents := rest }
    else s
  | [], s => s

def unwind (column : Int) (s : Lexer) : Lexer := s.closeBlocks column s.outerIndents

/-- Begin a block collection at a column unless one is there; tells whether it has begun. -/
def openBlock (column : Nat) (s : Lexer) : Bool × Lexer :=
  if s.indent < column then
    (true, { s with outerIndents := s.indent :: s.outerIndents, indent := column })
  else (false, s)

/-- Skip blanks, comments and line breaks; outside of brackets a key may follow a line break. -/
def skipSpace : (fuel : Nat) → Lexer → Except Fault Lexer
  | 0, s => .ok s
  | fuel + 1, s => do
    let after ← (← s.cursor.skipSpaces).skipComment
    match ← after.takeBreak with
    | none => return { s with cursor := after }
    | some (_, behind) =>
      skipSpace fuel { s with cursor := behind, keyAllowed := s.keyAllowed || s.flowLevel == 0 }

def toNext (s : Lexer) : Except Fault Lexer := do
  let marked := s.cursor.index = 0 ∧ s.cursor.peek = some '\ufeff'
  let first ← if marked then s.cursor.next else pure s.cursor
  skipSpace (first.left + 1) { s with cursor := first }

def endBlocks (s : Lexer) : Except Fault Lexer := do
  return { ← (s.unwind (-1)).dropCandidate with keyAllowed := false }

def finish (s : Lexer) : Except Fault Lexer := do
  return { (← s.endBlocks).push .streamEnd with candidates := [], finished := true }

def separator (token : Token) (s : Lexer) : Except Fault Lexer := do
  let s ← s.endBlocks
  return s.emit token (← s.cursor.skip 3)

def directive (s : Lexer) : Except Fault Lexer := do
  let s ← s.endBlocks
  let (token, after) ← readDirective s.cursor
  return s.emit token after

def openFlow (token : Token) (s : Lexer) : Except Fault Lexer := do
  let s ← s.addCandidate
  return { s.emit token (← s.cursor.next) with
    flowLevel := s.flowLevel + 1
    keyAllowed := true }

def closeFlow (token : Token) (s : Lexer) : Except Fault Lexer := do
  let s ← s.dropCandidate
  return { s.emit token (← s.cursor.next) with
    flowLevel := s.flowLevel - 1
    keyAllowed := false }

def flowEntry (s : Lexer) : Except Fault Lexer := do
  let s ← { s with keyAllowed := true }.dropCandidate
  return s.emit .flowEntry (← s.cursor.next)

/-- Outside of brackets, begin a block collection at the cursor if a key is allowed there. -/
def beginBlock (token : Token) (s : Lexer) : Except Fault Lexer :=
  if s.flowLevel ≠ 0 then .ok s
  else if !s.keyAllowed then .error .malformed
  else
    let (begun, s) := s.openBlock s.cursor.column
    .ok (if begun then s.push token else s)

def entry (s : Lexer) : Except Fault Lexer := do
  let s ← s.beginBlock .sequenceStart
  let s ← { s with keyAllowed := true }.dropCandidate
  return s.emit .entry (← s.cursor.next)

def explicitKey (s : Lexer) : Except Fault Lexer := do
  let s ← s.beginBlock .mappingStart
  let s ← { s with keyAllowed := s.flowLevel == 0 }.dropCandidate
  return s.emit .key (← s.cursor.next)

def valueSign (s : Lexer) : Except Fault Lexer :=
  match s.candidates.find? fun entry => entry.1 == s.flowLevel with
  | some (_, candidate) => do
    let s := { s with candidates := s.candidates.filter fun entry => entry.1 != s.flowLevel }
    let (begun, s) := if s.flowLevel = 0 then s.openBlock candidate.column else (false, s)
    let inserted := if begun then [Token.mappingStart, .key] else [.key]
    let (before, behind) := s.queue.splitAt (candidate.position - s.taken)
    let s := { s with queue := before ++ inserted ++ behind, keyAllowed := false }
    return s.emit .value (← s.cursor.next)
  | none => do
    let s ← s.beginBlock .mappingStart
    let s ← { s with keyAllowed := s.flowLevel == 0 }.dropCandidate
    return s.emit .value (← s.cursor.next)

def possibleKey (read : Cursor → Except Fault (Token × Bool × Cursor)) (s : Lexer) :
    Except Fault Lexer := do
  let s ← s.addCandidate
  let (token, keyAllowed, after) ← read s.cursor
  return { s.emit token after with keyAllowed := keyAllowed }

def name (token : String → Token) (s : Lexer) : Except Fault Lexer :=
  s.possibleKey fun c => do
    let (name, after) ← readAnchor (← c.next)
    return (token name, false, after)

def tag (s : Lexer) : Except Fault Lexer :=
  s.possibleKey fun c => do
    let (name, after) ← readTag c
    return (.tag name, false, after)

def blockScalar (folded : Bool) (s : Lexer) : Except Fault Lexer := do
  let s ← { s with keyAllowed := true }.dropCandidate
  let (text, after) ← Scalar.block folded (max (s.indent + 1) 1).toNat (← s.cursor.next)
  return s.emit (.scalar text false) after

def quotedScalar (double : Bool) (s : Lexer) : Except Fault Lexer :=
  s.possibleKey fun c => do
    let (text, after) ← Scalar.quoted double c
    return (.scalar text false, false, after)

def plainScalar (s : Lexer) : Except Fault Lexer :=
  s.possibleKey fun c => do
    let (text, broken, after) ← Scalar.plain (s.flowLevel != 0) (s.indent + 1).toNat c
    return (.scalar text true, broken, after)

def scan (ch : Char) (s : Lexer) : Except Fault Lexer := do
  let c := s.cursor
  let flow := s.flowLevel != 0
  let startsLine := c.column == 0
  match ch with
  | '%' => if startsLine then s.directive else throw .malformed
  | '-' =>
    if startsLine then
      if ← c.atMark ['-', '-', '-'] then return ← s.separator .documentStart
    if endsText (← c.peekAt 1) then s.entry else s.plainScalar
  | '.' =>
    if startsLine then
      if ← c.atMark ['.', '.', '.'] then return ← s.separator .documentEnd
    s.plainScalar
  | '[' => s.openFlow .flowSequenceStart
  | '\x7b' => s.openFlow .flowMappingStart
  | ']' => s.closeFlow .flowSequenceEnd
  | '\x7d' => s.closeFlow .flowMappingEnd
  | ',' => s.flowEntry
  | '?' =>
    if flow then s.explicitKey
    else if endsText (← c.peekAt 1) then s.explicitKey else s.plainScalar
  | ':' =>
    if flow then s.valueSign
    else if endsText (← c.peekAt 1) then s.valueSign else s.plainScalar
  | '*' => s.name .alias
  | '&' => s.name .anchor
  | '!' => s.tag
  | '|' => if flow then throw .malformed else s.blockScalar false
  | '>' => if flow then throw .malformed else s.blockScalar true
  | '\'' => s.quotedScalar false
  | '"' => s.quotedScalar true
  | '#' | '@' | '\x60' => throw .malformed
  | _ => if endsText (some ch) then throw .malformed else s.plainScalar

/-- Read the next token and the ends of the collections before it. -/
def fetch (s : Lexer) : Except Fault Lexer := do
  let s ← (← s.toNext).dropStale
  let s := s.unwind s.cursor.column
  match s.cursor.peek with
  | some ch => s.scan ch
  | none => s.finish

/-- Whether the first token of the queue may turn out to be a key. -/
def awaitsColon (s : Lexer) : Bool :=
  match s.candidates.map fun entry => entry.2.position with
  | [] => false
  | first :: rest => rest.foldl min first == s.taken

/-- Read on until the next token is certain; each round but the last takes at least a character. -/
def settle : (fuel : Nat) → Lexer → Except Fault Lexer
  | 0, s => .ok s
  | fuel + 1, s =>
    if s.finished then .ok s
    else if s.queue.isEmpty then do settle fuel (← s.fetch)
    else do
      let s ← s.dropStale
      if s.awaitsColon then settle fuel (← s.fetch) else return s

/-- The next token, where the end of the text stands for all that would come after it. -/
def peek (s : Lexer) : Except Fault (Token × Lexer) := do
  let s ← s.settle (s.cursor.left + 2)
  return (s.queue.headD .streamEnd, s)

def next (s : Lexer) : Lexer := { s with queue := s.queue.tail, taken := s.taken + 1 }

end Lexer

end TapeMachine.Yaml
