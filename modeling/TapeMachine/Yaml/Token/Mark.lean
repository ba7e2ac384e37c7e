import TapeMachine.Text.Utf8
import TapeMachine.Yaml.Token
import TapeMachine.Yaml.Token.Scalar

set_option autoImplicit false

namespace TapeMachine.Yaml

/-- Whether a character may stand in the name of an anchor, a handle or a directive. -/
def isNameChar (c : Char) : Bool := c.isAlphanum || c = '-' || c = '_'

/-- Whether a character may stand in the address of a tag as it is. -/
def isUriChar (c : Char) : Bool := c.isAlphanum || "-;/?:@&=+$,_.!~*'()[]".toList.contains c

def readAnchor (c : Cursor) : Except Fault (String × Cursor) := do
  let name := c.run isNameChar
  let after ← c.skip name.length
  if name.isEmpty then throw .malformed
  else if endsText after.peek || isAmong "?:,]\x7d%@\x60" after.peek then
    return (String.ofList name, after)
  else throw .malformed

/-- Read bytes that are written as percent signs with two hexadecimal digits each. -/
def readEscapedBytes : (fuel : Nat) → (bytes : Array UInt8) → Cursor →
    Except Fault (Array UInt8 × Cursor)
  | 0, bytes, c => .ok (bytes, c)
  | fuel + 1, bytes, c => do
    if c.peek = some '%' then
      let digits ← (← c.next).ahead 2
      if digits.length = 2 ∧ digits.all (Numeral.isDigit 16) then
        readEscapedBytes fuel (bytes.push (UInt8.ofNat (Numeral.value 16 digits))) (← c.skip 3)
      else throw .malformed
    else return (bytes, c)

def readUriPieces : (fuel : Nat) → (text : Array Char) → Cursor →
    Except Fault (Array Char × Cursor)
  | 0, text, c => .ok (text, c)
  | fuel + 1, text, c => do
    let piece := c.run isUriChar
    let after ← c.skip piece.length
    if after.peek = some '%' then
      let (bytes, behind) ← readEscapedBytes (after.left + 1) #[] after
      match Text.Utf8.decode bytes.toList with
      | .error _ => throw .malformed
      | .ok characters => readUriPieces fuel (text ++ piece ++ characters) behind
    else return (text ++ piece, after)

/-- Read the address of a tag, which has at least one character. -/
def readUri (c : Cursor) : Except Fault (String × Cursor) := do
  let (text, after) ← readUriPieces (c.left + 1) #[] c
  if after.index = c.index then throw .malformed else return (String.ofList text.toList, after)

/-- Read the handle of a tag: one exclamation mark, or a name between two. -/
def readHandle (c : Cursor) : Except Fault (String × Cursor) := do
  if c.peek ≠ some '!' then throw .malformed
  else if (← c.peekAt 1) = some ' ' then return ("!", ← c.next)
  else
    let name := (← c.next).run isNameChar
    if (← c.peekAt (name.length + 1)) = some '!' then
      return (String.ofList ('!' :: name ++ ['!']), ← c.skip (name.length + 2))
    else throw .malformed

def readTag (c : Cursor) : Except Fault (TagName × Cursor) := do
  let second ← c.peekAt 1
  let (name, after) ←
    if second = some '<' then do
      let (uri, behind) ← readUri (← c.skip 2)
      if behind.peek = some '>' then pure (⟨none, uri⟩, ← behind.next) else throw .malformed
    else if endsText second then pure (⟨none, "!"⟩, ← c.next)
    else do
      let behind ← c.next
      let word := behind.run fun ch => !endsWord (some ch) && ch != '!'
      let stop ← behind.peekAt word.length
      let (handle, behind) ← if stop = some '!' then readHandle c else pure ("!", behind)
      let (suffix, last) ← readUri behind
      pure (⟨some handle, suffix⟩, last)
  if endsWord after.peek then return (name, after) else throw .malformed

/-- Read the number of a version, which long numerals cannot give. -/
def readVersionNumber (c : Cursor) : Except Fault (Nat × Cursor) := do
  let digits := c.run Char.isDigit
  let after ← c.skip digits.length
  if digits.isEmpty then throw .malformed
  else if Numeral.maxDigits < digits.length then
    throw (.number (.tooManyDigits digits.length))
  else return (Numeral.value 10 digits, after)

/-- Read what a directive of a known name says, or the rest of the line. -/
def readDirectiveBody (name : String) (c : Cursor) : Except Fault (Token × Cursor) := do
  if name = "YAML" then
    let (major, dot) ← readVersionNumber (← c.skipSpaces)
    if dot.peek ≠ some '.' then throw .malformed
    let (_, behind) ← readVersionNumber (← dot.next)
    if endsWord behind.peek then return (.versionDirective major, behind) else throw .malformed
  else if name = "TAG" then
    let (handle, gap) ← readHandle (← c.skipSpaces)
    if gap.peek ≠ some ' ' then throw .malformed
    let (uri, behind) ← readUri (← gap.skipSpaces)
    if endsWord behind.peek then return (.handleDirective handle uri, behind)
    else throw .malformed
  else return (.otherDirective, ← c.skipRun (!isBreak ·))

def readDirective (c : Cursor) : Except Fault (Token × Cursor) := do
  let begun ← c.next
  let name := begun.run isNameChar
  let after ← begun.skip name.length
  if name.isEmpty || !endsWord after.peek then throw .malformed
  else
    let (token, last) ← readDirectiveBody (String.ofList name) after
    return (token, ← Scalar.ignoredLine last)

end TapeMachine.Yaml
