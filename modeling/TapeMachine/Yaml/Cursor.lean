import TapeMachine.Yaml.Arrival

set_option autoImplicit false

namespace TapeMachine.Yaml

def isBreak (c : Char) : Bool :=
  c = '\n' || c = '\r' || c = '\x85' || c = '\u2028' || c = '\u2029'

def endsLine (next : Option Char) : Bool := next.all isBreak

/-- Whether a line or a word ends here, where only the plain blank ends a word. -/
def endsWord (next : Option Char) : Bool := next.all fun c => c = ' ' || isBreak c

/-- Whether a line or a word ends here, where a tab ends a word too. -/
def endsText (next : Option Char) : Bool := next.all fun c => c = ' ' || c = '\t' || isBreak c

def isAmong (characters : String) (next : Option Char) : Bool :=
  next.any characters.toList.contains

/-- A place in a text. -/
structure Cursor where
  rest : List Char
  /-- The fault behind the text. -/
  fault? : Option Fault
  /-- How many characters the text has. -/
  size : Nat
  index : Nat
  line : Nat
  column : Nat

namespace Cursor

/-- The fault that is met if the text ends before a number of characters; else the place itself. -/
def reaching (needed : Nat) (c : Cursor) : Except Fault Cursor :=
  match c.fault? with
  | none => .ok c
  | some fault => if c.size < c.index + needed then .error fault else .ok c

def start (text : Arrival) : Except Fault Cursor :=
  reaching 1 ⟨text.text, text.fault?, text.text.length, 0, 0, 0⟩

def left (c : Cursor) : Nat := c.size - c.index

def peek (c : Cursor) : Option Char := c.rest.head?

/-- The next characters, up to `n` of them. -/
def ahead (n : Nat) (c : Cursor) : Except Fault (List Char) := do
  return (← c.reaching n).rest.take n

/-- The character that follows `n` others. -/
def peekAt (n : Nat) (c : Cursor) : Except Fault (Option Char) := do
  return (← c.reaching (n + 1)).rest[n]?

/-- The place behind the next character; a byte order mark takes no column. -/
def after (c : Cursor) : Cursor :=
  match c.rest with
  | [] => c
  | ch :: rest =>
    if isBreak ch && !(ch = '\r' && rest.head? = some '\n') then
      { c with rest := rest, index := c.index + 1, line := c.line + 1, column := 0 }
    else
      { c with
        rest := rest
        index := c.index + 1
        column := if ch = '\ufeff' then c.column else c.column + 1 }

/-- The place behind the next `n` characters. -/
def afterMany : Nat → Cursor → Cursor
  | 0, c => c
  | n + 1, c => afterMany n c.after

/-- Move behind the next `n` characters, where it is seen what stands there. -/
def skip (n : Nat) (c : Cursor) : Except Fault Cursor := (c.afterMany n).reaching 1

def next (c : Cursor) : Except Fault Cursor := c.skip 1

def run (fits : Char → Bool) (c : Cursor) : List Char := c.rest.takeWhile fits

def skipRun (fits : Char → Bool) (c : Cursor) : Except Fault Cursor := c.skip (c.run fits).length

def skipSpaces (c : Cursor) : Except Fault Cursor := c.skipRun (· == ' ')

def skipSpacesTo (column : Nat) (c : Cursor) : Except Fault Cursor :=
  c.skip (min (column - c.column) (c.run (· == ' ')).length)

def skipComment (c : Cursor) : Except Fault Cursor :=
  if c.peek = some '#' then c.skipRun (!isBreak ·) else .ok c

/--
The line break that stands here and the place behind it. All breaks of one line count as a line
feed; the separators of lines and paragraphs stay what they are.
-/
def takeBreak (c : Cursor) : Except Fault (Option (Char × Cursor)) :=
  match c.rest with
  | '\r' :: '\n' :: _ => return some ('\n', ← c.skip 2)
  | ch :: _ =>
    if ch = '\u2028' ∨ ch = '\u2029' then return some (ch, ← c.next)
    else if isBreak ch then return some ('\n', ← c.next)
    else return none
  | [] => return none

/-- Whether a mark of three characters stands here as a word of its own. -/
def atMark (mark : List Char) (c : Cursor) : Except Fault Bool := do
  if (← c.ahead 3) == mark then return endsText (← c.peekAt 3) else return false

def atSeparator (c : Cursor) : Except Fault Bool := do
  if ← c.atMark ['-', '-', '-'] then return true else c.atMark ['.', '.', '.']

end Cursor

end TapeMachine.Yaml
