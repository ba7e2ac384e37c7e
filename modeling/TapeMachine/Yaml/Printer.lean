import TapeMachine.Number.Binary64.Shortest
import TapeMachine.Yaml.Cursor
import TapeMachine.Yaml.Page
import TapeMachine.Yaml.Schema
import TapeMachine.Yaml.Written

/-!
Documents as text in block style: one entry or item a line, nested collections indented by two,
the items of a sequence under a key not indented further. A text is written plain where it reads
back as itself, else in single quotes, and in double quotes where it needs escapes. Long texts are
continued on the next line at a blank.
-/

set_option autoImplicit false

namespace TapeMachine.Yaml

/-- The ways to write a scalar. -/
inductive Style
  | plain
  | single
  | double
  deriving DecidableEq

/-- What a text holds that matters for the way it is written. -/
structure Shape where
  /-- The text has to be quoted wherever it stands. -/
  indicators : Bool
  breaks : Bool
  /-- Some character can only be written by an escape. -/
  special : Bool
  /-- The text begins or ends with a blank or a line break. -/
  padded : Bool
  /-- A blank follows a line break. -/
  breakSpace : Bool
  /-- A line break follows a blank. -/
  spaceBreak : Bool

namespace Shape

/-- The characters that have a meaning at the start of a scalar. -/
def isIndicator (c : Char) : Bool := "#,[]\x7b\x7d&*!|>'\"%@\x60".toList.contains c

/-- Whether a character may be written as it is in single quotes. -/
def isOrdinary (c : Char) : Bool :=
  let n := c.toNat
  c = '\n' || (0x20 ≤ n && n ≤ 0x7E) || n = 0x85 || (0xA0 ≤ n && n ≤ 0xFFFD && n ≠ 0xFEFF) ||
    (0x10000 ≤ n && n < 0x10FFFF)

def isLineEnd (c : Char) : Bool := c = '\n' || c = '\x85' || c = '\u2028' || c = '\u2029'

def startIndicates (text : List Char) : Bool :=
  match text with
  | [] => false
  | c :: rest =>
    text.take 3 == ['-', '-', '-'] || text.take 3 == ['.', '.', '.'] || isIndicator c ||
      ((c = '?' || c = ':' || c = '-') && endsText rest.head?)

def innerIndicates : (before : Char) → List Char → Bool
  | _, [] => false
  | before, c :: rest =>
    (c = ':' && endsText rest.head?) || (c = '#' && endsText (some before)) || innerIndicates c rest

def adjacent (first second : Char → Bool) : List Char → Bool
  | a :: b :: rest => first a && second b || adjacent first second (b :: rest)
  | _ => false

def of (text : List Char) : Shape :=
  let isSpace := fun c => c = ' '
  let pads := fun (c : Option Char) => c.any fun c => isSpace c || isLineEnd c
  { indicators := startIndicates text ||
      match text with
      | c :: rest => innerIndicates c rest
      | [] => false
    breaks := text.any isLineEnd
    special := text.any fun c => !isOrdinary c
    padded := pads text.head? || pads text.getLast?
    breakSpace := adjacent isLineEnd isSpace text
    spaceBreak := adjacent isSpace isLineEnd text }

/-- Whether a text with this shape may be written without quotes. -/
def allowsPlain (s : Shape) : Bool :=
  !(s.indicators || s.breaks || s.special || s.padded || s.breakSpace || s.spaceBreak)

/-- Whether a text with this shape may be written in single quotes. -/
def allowsSingle (s : Shape) : Bool := !(s.special || s.breakSpace || s.spaceBreak)

end Shape

/-- How a text is written; only one that its form makes a text can do without quotes. -/
def Style.ofText (text : List Char) : Style :=
  let shape := Shape.of text
  if Tag.ofPlain text = .str ∧ shape.allowsPlain then plain
  else if shape.allowsSingle then single
  else double

def escapeLetter? : Char → Option Char
  | '\x00' => some '0'
  | '\x07' => some 'a'
  | '\x08' => some 'b'
  | '\t' => some 't'
  | '\n' => some 'n'
  | '\x0b' => some 'v'
  | '\x0c' => some 'f'
  | '\r' => some 'r'
  | '\x1b' => some 'e'
  | '"' => some '"'
  | '\\' => some '\\'
  | '\x85' => some 'N'
  | '\u2028' => some 'L'
  | '\u2029' => some 'P'
  | _ => none

def doubleQuotedChar (c : Char) : List Char :=
  let n := c.toNat
  match escapeLetter? c with
  | some letter => ['\\', letter]
  | none =>
    if (0x20 ≤ n && n ≤ 0x7E) || (0xA0 ≤ n && n ≤ 0xFFFD && n ≠ 0xFEFF) then [c]
    else if n ≤ 0xFF then '\\' :: 'x' :: Text.hexDigits 'A' 2 n
    else if n ≤ 0xFFFF then '\\' :: 'u' :: Text.hexDigits 'A' 4 n
    else '\\' :: 'U' :: Text.hexDigits 'A' 8 n

/-- The width from which on a text is continued on the next line. -/
def maxWidth : Nat := 80

/-- Whether a text that has come beyond the width may go on at the next line. -/
def isWide (split : Bool) (p : Page) : Bool := split && decide (maxWidth < p.column)

def putPlain (split : Bool) (column : Nat) (text : List Char) (p : Page) : Page :=
  let start := { (if p.spaced then p else p.put [' ']) with spaced := false, fresh := false }
  (text.splitBy fun a b => (a == ' ') == (b == ' ')).foldl
    (fun p piece => if piece == [' '] && isWide split p then p.continueAt column else p.put piece)
    start

/-- Write line breaks inside single quotes: a line feed that comes first is doubled. -/
def putBreaks (column : Nat) (breaks : List Char) (p : Page) : Page :=
  let doubled := if breaks.head? == some '\n' then '\n' :: breaks else breaks
  (doubled.foldl (fun p br => p.endLine br) p).indent column

/-- Write the pieces of a text inside single quotes; a single blank between two may end a line. -/
def putPieces (split : Bool) (column : Nat) : (first : Bool) → List (List Char) → Page → Page
  | _, [], p => p
  | first, piece :: rest, p =>
    let next :=
      if piece.any Shape.isLineEnd then putBreaks column piece p
      else if piece == [' '] && !first && !rest.isEmpty && isWide split p then p.indent column
      else p.put (piece.flatMap fun c => if c = '\'' then ['\'', '\''] else [c])
    putPieces split column false rest next

def putSingle (split : Bool) (column : Nat) (text : List Char) (p : Page) : Page :=
  let kind := fun c => (c == ' ', Shape.isLineEnd c)
  let pieces := text.splitBy fun a b => kind a == kind b
  (putPieces split column true pieces (p.sign ['\''] false)).close ['\'']

/--
Write the rest of a text in double quotes, where `held` has been read and not been written, the last
character first. Behind the width a line is ended by a backslash, before a blank or behind an
escape, and a blank that begins the next line has a backslash before it.
-/
def putDouble (split : Bool) (column : Nat) : (first : Bool) → (held : List Char) → List Char →
    Page → Page
  | _, held, [], p => (p.put held.reverse).close ['"']
  | first, held, c :: rest, p =>
    let written := doubleQuotedChar c
    let escaped := written != [c]
    let before := if escaped then (p.put held.reverse).put written else p
    let kept := if escaped then [] else held
    let limit := if escaped then maxWidth + 1 else maxWidth
    if split && !first && !rest.isEmpty && (c = ' ' || kept.isEmpty) &&
        decide (limit < before.column + kept.length) then
      let broken := (before.put (kept.reverse ++ ['\\'])).continueAt column
      let next := if escaped then rest.head? else some c
      let start := if next = some ' ' then broken.put ['\\'] else broken
      putDouble split column false (if escaped then [] else [c]) rest start
    else putDouble split column false (if escaped then [] else c :: kept) rest before

def putText (split : Bool) (column : Nat) (text : List Char) (p : Page) : Page :=
  match Style.ofText text with
  | .plain => putPlain split column text p
  | .single => putSingle split column text p
  | .double => putDouble split column true [] text (p.sign ['"'] false)

/-- A number as text, with a point even where only an exponent follows the first digit. -/
def floatText : Binary64 → List Char
  | .nan => ".nan".toList
  | .infinity negative => (if negative then "-.inf" else ".inf").toList
  | x =>
    let text := x.text.toList
    if text.contains '.' then text
    else text.takeWhile (· != 'e') ++ (if text.contains 'e' then ['.', '0'] else []) ++
      text.dropWhile (· != 'e')

def putBytes (column : Nat) (bytes : List UInt8) (p : Page) : Page :=
  let tagged := p.sign "!!binary".toList false
  if bytes.isEmpty then (tagged.sign ['"'] false).close ['"']
  else
    (Text.Base64.encodeLines bytes).foldl
      (fun p line => ((p.indent column).put line).endLine '\n')
      ((tagged.sign ['|'] false).endLine '\n')

/-- The text of a scalar that is written plain whatever it is; none for texts and byte strings. -/
def plainText? : Value → Option (List Char)
  | .null => some "null".toList
  | .bool b => some (if b then "true" else "false").toList
  | .int n => some (toString n).toList
  | .float x => some (floatText x)
  | .date d => some d.text.toList
  | .timestamp t => some t.text.toList
  | _ => none

def putScalar (split : Bool) (column : Nat) (v : Value) (p : Page) : Page :=
  match v, plainText? v with
  | _, some text => putPlain split column text p
  | .str text, none => putText split column text.toList p
  | .path text, none => putText split column text.toList p
  | .bytes bytes, none => putBytes column bytes p
  | _, none => p

def tagLength : Value → Nat
  | .null | .bool _ => 6
  | .float _ => 7
  | .timestamp _ | .date _ => 11
  | .bytes _ => 8
  | _ => 5

def nameOf (number : Nat) : List Char := "id".toList ++ (Text.zeroFilled 3 number).toList

/-- Write the name of an object behind a sign, if it carries a number. -/
def putName (mark : Char) (number? : Option Nat) (p : Page) : Page :=
  match number? with
  | some number => p.sign (mark :: nameOf number) false
  | none => p

/-- The longest key, with its name and its tag, that stands on the line of its value. -/
def maxSimpleKey : Nat := 127

/-- Whether a key stands on the line of its value, without a sign of its own. -/
def isSimpleKey : Written → Bool
  | .alias _ => true
  | .scalar number? v =>
    let own := ((number?.map nameOf).getD []).length + tagLength v
    match v, plainText? v with
    | .str text, _ =>
      !text.isEmpty && !(Shape.of text.toList).breaks && text.length + own ≤ maxSimpleKey
    | _, some text => text.length + own ≤ maxSimpleKey
    | _, none => false
  | .sequence _ items => items.isEmpty
  | .mapping _ _ entries => entries.isEmpty

/-- Where a node stands. -/
inductive Position
  | item
  | simpleKey
  /-- A key with a sign of its own, or a value. -/
  | member
  deriving DecidableEq

mutual

/-- Write a node inside a collection at a column; nothing is around the whole document. -/
def putNode (position : Position) (around : Option Nat) : Written → Page → Page
  | .alias number, p => putName '*' (some number) p
  | .scalar number? v, p =>
    putScalar (position ≠ .simpleKey) ((around.map (· + 2)).getD 2) v (putName '&' number? p)
  | .sequence number? items, p =>
    let named := putName '&' number? p
    if items.isEmpty then (named.sign ['['] false).close [']']
    else
      let level := position ≠ .item && !named.fresh
      let column := (around.map fun n => if level then n else n + 2).getD 0
      putItems column items named
  | .mapping number? isSet entries, p =>
    let named := putName '&' number? p
    let tagged := if isSet then named.sign "!!set".toList false else named
    if entries.isEmpty then (tagged.sign ['\x7b'] false).close ['\x7d']
    else putEntries ((around.map (· + 2)).getD 0) entries tagged

def putItems (column : Nat) : List Written → Page → Page
  | [], p => p
  | item :: rest, p =>
    putItems column rest (putNode .item (some column) item ((p.indent column).sign ['-'] true))

def putEntries (column : Nat) : List (Written × Written) → Page → Page
  | [], p => p
  | (key, value) :: rest, p =>
    let start := p.indent column
    let keyed :=
      if isSimpleKey key then (putNode .simpleKey (some column) key start).close [':']
      else
        let signed := putNode .member (some column) key (start.sign ['?'] true)
        (signed.indent column).sign [':'] true
    putEntries column rest (putNode .member (some column) value keyed)

end

def digitBound : Nat := Nat.pow 10 4300

/-- Whether a scalar can be written: very long integers cannot. -/
def isWritable : Value → Bool
  | .int n => decide (n.natAbs < digitBound)
  | _ => true

/--
The text of a document, however deep its collections are nested: a limit of the stack is not
modelled.
-/
def dump (document : Written) : Except Fault String :=
  if document.all isWritable then .ok ((putNode .item none document .empty).indent 0).text
  else .error .longInteger

end TapeMachine.Yaml
