import TapeMachine.Number.Numeral
import TapeMachine.Yaml.Cursor

set_option autoImplicit false

namespace TapeMachine.Yaml.Scalar

/-! ### Plain scalars -/

/-- How many characters of a plain scalar stand on this line before the next blank. -/
def plainLength (flow : Bool) (text : List Char) : Nat := count 0 text
where
  /-- The count so far and the characters that follow. -/
  count (n : Nat) : List Char → Nat
    | [] => n
    | ch :: rest =>
      let next := rest.head?
      if endsText (some ch) then n
      else if ch = ':' ∧ (endsText next ∨ flow ∧ isAmong ",[]\x7b\x7d" next) then n
      else if flow ∧ isAmong ",?[]\x7b\x7d" (some ch) then n
      else count (n + 1) rest

/-- Empty lines and indentation, up to a document separator, which the flag reports. -/
def blankLines : (fuel : Nat) → (lines : Array Char) → Cursor →
    Except Fault (Array Char × Bool × Cursor)
  | 0, lines, c => .ok (lines, false, c)
  | fuel + 1, lines, c => do
    if c.peek = some ' ' then blankLines fuel lines (← c.next)
    else
      match ← c.takeBreak with
      | none => return (lines, false, c)
      | some (br, after) =>
        if ← after.atSeparator then return (lines.push br, true, after)
        else blankLines fuel (lines.push br) after

/-- What one line break and the breaks after it mean: a single one is a blank. -/
def foldBreaks (first : Char) (more : Array Char) : Array Char :=
  if first ≠ '\n' then #[first] ++ more else if more.isEmpty then #[' '] else more

/-- What stands between two words of a plain scalar. -/
structure Gap where
  text : Array Char
  /-- Whether a line ended. -/
  broken : Bool
  cursor : Cursor

/-- Read what stands between two words; nothing if the scalar ends here. -/
def plainGap (c : Cursor) : Except Fault Gap := do
  let spaces := c.run (· == ' ')
  let after ← c.skip spaces.length
  match ← after.takeBreak with
  | none => return ⟨spaces.toArray, false, after⟩
  | some (br, behind) =>
    if ← behind.atSeparator then return ⟨#[], true, behind⟩
    else
      let (more, stopped, last) ← blankLines (behind.left + 1) #[] behind
      return if stopped then ⟨#[], true, last⟩ else ⟨foldBreaks br more, true, last⟩

/--
Read the words of a plain scalar from `indent` on, behind those that have been read and the gap
after them; the flag tells whether a line ended last.
-/
def plainWords (flow : Bool) (indent : Nat) : (fuel : Nat) → (words gap : Array Char) →
    (broken : Bool) → Cursor → Except Fault (Array Char × Bool × Cursor)
  | 0, words, _, broken, c => .ok (words, broken, c)
  | fuel + 1, words, gap, broken, c => do
    let n := plainLength flow c.rest
    let stopsAtColon := c.rest[n]? = some ':'
    let _ ← c.reaching (if c.peek ≠ some '#' ∧ stopsAtColon then n + 2 else 0)
    if c.peek = some '#' ∨ n = 0 then return (words, broken, c)
    else
      let longer := words ++ gap ++ c.rest.take n
      let between ← plainGap (← c.skip n)
      if between.text.isEmpty ∨ between.cursor.peek = some '#' ∨
          (!flow ∧ between.cursor.column < indent) then
        return (longer, between.broken, between.cursor)
      else plainWords flow indent fuel longer between.text between.broken between.cursor

def plain (flow : Bool) (indent : Nat) (c : Cursor) : Except Fault (String × Bool × Cursor) := do
  let (text, broken, after) ← plainWords flow indent (c.left + 1) #[] #[] false c
  return (String.ofList text.toList, broken, after)

/-! ### Quoted scalars -/

def escape? : Char → Option Char
  | '0' => some '\x00'
  | 'a' => some '\x07'
  | 'b' => some '\x08'
  | 't' => some '\t'
  | '\t' => some '\t'
  | 'n' => some '\n'
  | 'v' => some '\x0b'
  | 'f' => some '\x0c'
  | 'r' => some '\r'
  | 'e' => some '\x1b'
  | ' ' => some ' '
  | '"' => some '"'
  | '\\' => some '\\'
  | '/' => some '/'
  | 'N' => some '\x85'
  | '_' => some '\xa0'
  | 'L' => some '\u2028'
  | 'P' => some '\u2029'
  | _ => none

/-- How many digits follow a letter that announces a code point. -/
def escapeDigits? : Char → Option Nat
  | 'x' => some 2
  | 'u' => some 4
  | 'U' => some 8
  | _ => none

/-- The number that hexadecimal digits at the start of a text make, if there are enough of them. -/
def hexNumber? (count : Nat) (text : List Char) : Option Nat :=
  let digits := text.take count
  if digits.length = count ∧ digits.all (Numeral.isDigit 16) then some (Numeral.value 16 digits)
  else none

/-- The second half of a character beyond the first plane, if an escape at the start gives one. -/
def lowHalf? (text : List Char) : Option (Nat × Nat) :=
  match text with
  | '\\' :: letter :: rest => do
    let count ← escapeDigits? letter
    let n ← hexNumber? count rest
    if 0xDC00 ≤ n ∧ n < 0xE000 then some (n - 0xDC00, count + 2) else none
  | _ => none

/--
The character of a code point, and how many characters of the text behind it belong to it. A text
has no halves of characters: two of them in escapes one after the other are taken for the character
that they are the halves of, and one alone for the mark of an unknown character.
-/
def codePoint (n : Nat) (rest : List Char) : Except Fault (Char × Nat) :=
  if 0x80000000 ≤ n then .error (.codePoint true)
  else if 0x10FFFF < n then .error (.codePoint false)
  else if 0xD800 ≤ n ∧ n < 0xE000 then
    match if n < 0xDC00 then lowHalf? rest else none with
    | some (low, taken) => .ok (Char.ofNat (0x10000 + (n - 0xD800) * 0x400 + low), taken)
    | none => .ok ('\ufffd', 0)
  else .ok (Char.ofNat n, 0)

def isSpace (ch : Char) : Bool := ch = ' ' || ch = '\t'

/-- Line breaks inside quotes, with the blanks around them left out. -/
def quotedBreaks : (fuel : Nat) → (breaks : Array Char) → Cursor →
    Except Fault (Array Char × Cursor)
  | 0, breaks, c => .ok (breaks, c)
  | fuel + 1, breaks, c => do
    if ← c.atSeparator then throw .malformed
    let after ← c.skipRun isSpace
    match ← after.takeBreak with
    | none => return (breaks, after)
    | some (br, behind) => quotedBreaks fuel (breaks.push br) behind

def escapeSequence (c : Cursor) : Except Fault (Array Char × Cursor) := do
  match c.peek with
  | none => throw .malformed
  | some letter =>
    match escape? letter, escapeDigits? letter with
    | some meaning, _ => return (#[meaning], ← c.next)
    | none, some count =>
      let digits ← c.next
      match hexNumber? count digits.rest with
      | some n =>
        let (character, taken) ← codePoint n (digits.rest.drop count)
        return (#[character], ← digits.skip (count + taken))
      | none =>
        if digits.rest.all (Numeral.isDigit 16) then let _ ← digits.reaching count
        throw .malformed
    | none, none =>
      match ← c.takeBreak with
      | some (_, behind) => quotedBreaks (behind.left + 1) #[] behind
      | none => throw .malformed

/-- Read blanks or line breaks inside quotes, where a single break means a blank. -/
def quotedGap (c : Cursor) : Except Fault (Array Char × Cursor) := do
  let after ← c.skipRun isSpace
  match ← after.takeBreak with
  | some (br, behind) =>
    let (more, last) ← quotedBreaks (behind.left + 1) #[] behind
    return (foldBreaks br more, last)
  | none => if after.peek.isNone then throw .malformed else return ((c.run isSpace).toArray, after)

/-- Whether a character stands for itself wherever it is inside quotes. -/
def isQuotable (ch : Char) : Bool :=
  !(ch = '\'' || ch = '"' || ch = '\\' || endsText (some ch))

/-- Read up to the closing quotation mark and behind it, after the text that has been read. -/
def quotedRest (double : Bool) : (fuel : Nat) → (text : Array Char) → Cursor →
    Except Fault (Array Char × Cursor)
  | 0, _, _ => .error .malformed
  | fuel + 1, text, c => do
    let word := c.run isQuotable
    let text := text ++ word
    let c ← c.skip word.length
    match c.peek with
    | none => throw .malformed
    | some ch =>
      if ch = '\'' ∧ !double then
        if (← c.peekAt 1) = some '\'' then quotedRest double fuel (text.push '\'') (← c.skip 2)
        else return (text, ← c.next)
      else if ch = '"' ∧ double then return (text, ← c.next)
      else if ch = '\\' ∧ double then
        let (piece, after) ← escapeSequence (← c.next)
        quotedRest double fuel (text ++ piece) after
      else if endsText (some ch) then
        let (piece, after) ← quotedGap c
        quotedRest double fuel (text ++ piece) after
      else quotedRest double fuel (text.push ch) (← c.next)

/-- Read a quoted scalar, the cursor standing on the opening quotation mark. -/
def quoted (double : Bool) (c : Cursor) : Except Fault (String × Cursor) := do
  let (text, after) ← quotedRest double (c.left + 1) #[] (← c.next)
  return (String.ofList text.toList, after)

/-! ### Block scalars -/

/-- What becomes of the line breaks at the end of a block scalar. -/
inductive Chomping
  | strip
  | clip
  | keep
  deriving DecidableEq

def chomping? : Option Char → Option Chomping
  | some '+' => some .keep
  | some '-' => some .strip
  | _ => none

/-- The digit that gives the indentation; zero is refused. -/
def increment? (next : Option Char) : Except Fault (Option Nat) :=
  match next with
  | some ch =>
    if ch.isDigit then
      if ch = '0' then .error .malformed else .ok (some (ch.toNat - '0'.toNat))
    else .ok none
  | none => .ok none

def blockSigns (c : Cursor) : Except Fault (Chomping × Option Nat × Cursor) := do
  let (chomping, increment, after) ←
    match chomping? c.peek with
    | some chomping =>
      let behind ← c.next
      match ← increment? behind.peek with
      | some n => pure (chomping, some n, ← behind.next)
      | none => pure (chomping, none, behind)
    | none =>
      match ← increment? c.peek with
      | some n =>
        let behind ← c.next
        match chomping? behind.peek with
        | some chomping => pure (chomping, some n, ← behind.next)
        | none => pure (.clip, some n, behind)
      | none => pure (.clip, none, c)
  if endsWord after.peek then return (chomping, increment, after) else throw .malformed

/-- Move behind a line that may hold blanks and a comment only. -/
def ignoredLine (c : Cursor) : Except Fault Cursor := do
  let after ← (← c.skipSpaces).skipComment
  if endsLine after.peek then
    match ← after.takeBreak with
    | some (_, behind) => return behind
    | none => return after
  else throw .malformed

/-- The empty lines before a block scalar and the widest indentation among them. -/
def leadingLines : (fuel : Nat) → (lines : Array Char) → (widest : Nat) → Cursor →
    Except Fault (Array Char × Nat × Cursor)
  | 0, lines, widest, c => .ok (lines, widest, c)
  | fuel + 1, lines, widest, c => do
    if c.peek = some ' ' then
      let after ← c.next
      leadingLines fuel lines (max widest after.column) after
    else
      match ← c.takeBreak with
      | none => return (lines, widest, c)
      | some (br, behind) => leadingLines fuel (lines.push br) widest behind

/-- The empty lines between two lines of a block scalar, and the indentation after them. -/
def blockBreaks (indent : Nat) : (fuel : Nat) → (breaks : Array Char) → Cursor →
    Except Fault (Array Char × Cursor)
  | 0, breaks, c => .ok (breaks, c)
  | fuel + 1, breaks, c => do
    let after ← c.skipSpacesTo indent
    match ← after.takeBreak with
    | none => return (breaks, after)
    | some (br, behind) => blockBreaks indent fuel (breaks.push br) behind

/-- Whether a line begins with a blank, which keeps it from being folded. -/
def startsBlank (c : Cursor) : Bool := isAmong " \t" c.peek

/-- The lines of a block scalar: the text without its last break, that break, and those after it. -/
structure BlockLines where
  text : Array Char
  last : Array Char
  trailing : Array Char

/-- Read the lines of a block scalar behind those that have been read and the breaks after them. -/
def blockLines (folded : Bool) (indent : Nat) : (fuel : Nat) → (text breaks : Array Char) →
    Cursor → Except Fault (BlockLines × Cursor)
  | 0, text, breaks, c => .ok (⟨text, #[], breaks⟩, c)
  | fuel + 1, text, breaks, c => do
    let line := c.run (!isBreak ·)
    let longer := text ++ breaks ++ line
    let ended ← c.skip line.length
    let (br, behind) ← match ← ended.takeBreak with
      | some (ch, behind) => pure (#[ch], behind)
      | none => pure (#[], ended)
    let (more, next) ← blockBreaks indent (behind.left + 1) #[] behind
    if next.column = indent ∧ next.peek.isSome then
      let joint :=
        if folded ∧ br = #['\n'] ∧ !startsBlank c ∧ !startsBlank next then
          if more.isEmpty then #[' '] else #[]
        else br
      blockLines folded indent fuel (longer ++ joint) more next
    else return (⟨longer, br, more⟩, next)

/-- Read a block scalar inside the given indentation, the cursor standing behind its indicator. -/
def block (folded : Bool) (least : Nat) (c : Cursor) : Except Fault (String × Cursor) := do
  let (chomping, increment, signed) ← blockSigns c
  let first ← ignoredLine signed
  let (indent, before, start) ←
    match increment with
    | none =>
      let (breaks, widest, after) ← leadingLines (first.left + 1) #[] 0 first
      pure (max least widest, breaks, after)
    | some n =>
      let indent := least + n - 1
      let (breaks, after) ← blockBreaks indent (first.left + 1) #[] first
      pure (indent, breaks, after)
  let (lines, after) ←
    if start.column = indent ∧ start.peek.isSome then
      blockLines folded indent (start.left + 1) #[] before start
    else pure (⟨#[], #[], before⟩, start)
  let ending := match chomping with
    | .strip => #[]
    | .clip => lines.last
    | .keep => lines.last ++ lines.trailing
  return (String.ofList (lines.text ++ ending).toList, after)

end TapeMachine.Yaml.Scalar
