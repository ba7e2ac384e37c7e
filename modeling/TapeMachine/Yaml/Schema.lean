import TapeMachine.Number.Binary64.Reading
import TapeMachine.Text.Base64
import TapeMachine.Text.LowerCase
import TapeMachine.Text.Pattern
import TapeMachine.Value.Integer
import TapeMachine.Yaml.Fault

set_option autoImplicit false

namespace TapeMachine.Yaml

/-- The type of a node. -/
inductive Tag
  | null
  | bool
  | int
  | float
  | binary
  | timestamp
  | str
  | list
  | map
  | set
  | orderedMap
  | pairs
  /-- The key under which a mapping takes over the entries of others. -/
  | merge
  /-- The key of the value that stands for a whole mapping. -/
  | default
  | unknown
  deriving DecidableEq

def Tag.ofUri (uri : String) : Tag :=
  match uri with
  | "tag:yaml.org,2002:null" => null
  | "tag:yaml.org,2002:bool" => bool
  | "tag:yaml.org,2002:int" => int
  | "tag:yaml.org,2002:float" => float
  | "tag:yaml.org,2002:binary" => binary
  | "tag:yaml.org,2002:timestamp" => timestamp
  | "tag:yaml.org,2002:str" => str
  | "tag:yaml.org,2002:seq" => list
  | "tag:yaml.org,2002:map" => map
  | "tag:yaml.org,2002:set" => set
  | "tag:yaml.org,2002:omap" => orderedMap
  | "tag:yaml.org,2002:pairs" => pairs
  | "tag:yaml.org,2002:merge" => merge
  | "tag:yaml.org,2002:value" => default
  | _ => unknown

namespace Form

open Text.Pattern

def digits (characters : String) : Text.Pattern := some (among characters)

def sign : Text.Pattern := optional (among "+-")

def decimal : Text.Pattern := seq digit (many (among "0123456789_"))

/-- A decimal digit that is not zero, then digits and underscores. -/
def positive : Text.Pattern := seq (among "123456789") (many (among "0123456789_"))

def sixtieths : Text.Pattern :=
  some (all [word ":", optional (among "012345"), digit])

def bool : Text.Pattern :=
  words ["yes", "Yes", "YES", "no", "No", "NO", "true", "True", "TRUE", "false", "False", "FALSE",
    "on", "On", "ON", "off", "Off", "OFF"]

def int : Text.Pattern :=
  any [all [sign, word "0b", digits "01_"], all [sign, word "0", digits "01234567_"],
    seq sign (word "0"), seq sign positive, all [sign, word "0x", digits "0123456789abcdefABCDEF_"],
    all [sign, positive, sixtieths]]

def exponent : Text.Pattern := all [among "eE", among "+-", some digit]

def float : Text.Pattern :=
  any [all [sign, decimal, word ".", many (among "0123456789_"), optional exponent],
    all [word ".", decimal, optional exponent],
    all [sign, decimal, sixtieths, word ".", many (among "0123456789_")],
    all [sign, words [".inf", ".Inf", ".INF"]], words [".nan", ".NaN", ".NAN"]]

def null : Text.Pattern := words ["", "~", "null", "Null", "NULL"]

def twoDigits : Text.Pattern := seq digit (optional digit)

def gap : Text.Pattern := many (among " \t")

def moment : Text.Pattern :=
  all [digit, digit, digit, digit, word "-", twoDigits, word "-", twoDigits,
    alt (among "Tt") (some (among " \t")), twoDigits,
    word ":", digit, digit, word ":", digit, digit,
    optional (seq (word ".") (many digit)),
    optional (seq gap (alt (word "Z")
      (all [among "+-", twoDigits, optional (all [word ":", digit, digit])])))]

def date : Text.Pattern :=
  all [digit, digit, digit, digit, word "-", digit, digit, word "-", digit, digit]

def looseDate : Text.Pattern :=
  all [digit, digit, digit, digit, word "-", twoDigits, word "-", twoDigits]

end Form

/-- A text as its form is looked at: a line feed at the end does not count. -/
def withoutLastBreak (text : List Char) : List Char :=
  if text.length ≠ 1 ∧ text.getLast? = some '\n' then text.dropLast else text

def Tag.ofPlain (text : List Char) : Tag :=
  let line := withoutLastBreak text
  if Form.bool.fits line then bool
  else if Form.float.fits line then float
  else if Form.int.fits line then int
  else if line = ['<', '<'] then merge
  else if Form.null.fits line then null
  else if Form.date.fits line || Form.moment.fits line then timestamp
  else if line = ['='] then default
  else if line = ['!'] ∨ line = ['&'] ∨ line = ['*'] then unknown
  else str

namespace Scalar

def readBool (text : List Char) : Except Fault Bool :=
  let small := Text.lower text
  let word := String.ofList small
  if word = "yes" ∨ word = "true" ∨ word = "on" then .ok true
  else if word = "no" ∨ word = "false" ∨ word = "off" then .ok false
  else .error (.notBoolean (String.ofList (Text.quoted small)))

def readInBase (base : Nat) (text : List Char) : Except Fault Int :=
  (Value.readNumeral base text).mapError .number

def splitColons : List Char → List (List Char)
  | [] => [[]]
  | c :: rest =>
    match splitColons rest with
    | part :: parts => if c = ':' then [] :: part :: parts else (c :: part) :: parts
    | [] => [[c]]

def readUnsigned (text : List Char) : Except Fault Int :=
  match text with
  | [] => .error .emptyNumber
  | ['0'] => .ok 0
  | '0' :: 'b' :: rest => readInBase 2 rest
  | '0' :: 'x' :: rest => readInBase 16 rest
  | '0' :: _ => readInBase 8 text
  | _ =>
    if text.contains ':' then do
      let parts ← (splitColons text).mapM (readInBase 10)
      return parts.foldl (fun total part => total * 60 + part) 0
    else readInBase 10 text

/-- The integer that a text stands for; underscores do not count. -/
def readInt (text : List Char) : Except Fault Int :=
  match text.filter (· ≠ '_') with
  | [] => .error .emptyNumber
  | '-' :: rest => (readUnsigned rest).map (- ·)
  | '+' :: rest => readUnsigned rest
  | all => readUnsigned all

def readDecimal (text : List Char) : Except Fault Binary64 :=
  match Binary64.parse? text with
  | some x => .ok x
  | none => .error (.notFloat (String.ofList (Text.quoted text)))

/--
The sum of parts of which each counts sixty times as much as the one after it, from the last one on.
What a part counts has to be a floating-point number, whatever the part is.
-/
def sumSixtieths : (unit : Int) → (sum : Binary64) → List Binary64 → Except Fault Binary64
  | _, sum, [] => .ok sum
  | unit, sum, part :: rest =>
    match Binary64.ofInt unit with
    | .finite s m q => sumSixtieths (unit * 60) (sum.add (part.mul (.finite s m q))) rest
    | _ => .error .unitTooLarge

/-- Whether a text is the word for the value that is not a number. -/
def isNanWord (text : List Char) : Bool :=
  let small := Text.lower (text.filter (· ≠ '_'))
  let body := match small with
    | '-' :: rest => rest
    | '+' :: rest => rest
    | _ => small
  body == ".nan".toList

def readFloat (text : List Char) : Except Fault Binary64 :=
  let small := Text.lower (text.filter (· ≠ '_'))
  match small with
  | [] => .error .emptyNumber
  | first :: rest =>
    let negative := first = '-'
    let body := if first = '-' ∨ first = '+' then rest else small
    let signed := fun (x : Binary64) => if negative then x.neg else x
    if body = ".inf".toList then .ok (signed (.infinity false))
    else if body = ".nan".toList then .ok .nan
    else if body.contains ':' then do
      let parts ← (splitColons body).mapM readDecimal
      return signed (← sumSixtieths 1 (Binary64.zero false) parts.reverse)
    else (readDecimal body).map signed

/-- The number that the digits at the start of a text make, and what follows them. -/
def leadingNumber (text : List Char) : Nat × List Char :=
  (Numeral.value 10 (text.takeWhile Char.isDigit), text.dropWhile Char.isDigit)

/-- The microseconds of a fraction: its first six digits, with zeros for those that are missing. -/
def readFraction (text : List Char) : Nat × List Char :=
  match text with
  | '.' :: rest =>
    let digits := rest.takeWhile Char.isDigit
    (Numeral.value 10 ((digits ++ List.replicate 6 '0').take 6), rest.dropWhile Char.isDigit)
  | _ => (0, text)

def readOffset (text : List Char) : Option Int :=
  match text.dropWhile fun c => c = ' ' || c = '\t' with
  | [] => none
  | 'Z' :: _ => some 0
  | sign :: rest =>
    let (hours, after) := leadingNumber rest
    let minutes : Int := (hours * 60 + (leadingNumber (after.drop 1)).1 : Nat)
    some (if sign = '-' then -minutes else minutes)

def readTimestamp (text : List Char) : Except Fault Value :=
  let line := withoutLastBreak text
  let (year, rest) := leadingNumber line
  let (month, rest) := leadingNumber (rest.drop 1)
  let (day, rest) := leadingNumber (rest.drop 1)
  if Form.looseDate.fits line then
    ((Calendar.Date.make year month day).map Value.date).mapError .calendar
  else if Form.moment.fits line then
    let (hour, rest) := leadingNumber (rest.dropWhile fun c => !c.isDigit)
    let (minute, rest) := leadingNumber (rest.drop 1)
    let (second, rest) := leadingNumber (rest.drop 1)
    let (fraction, rest) := readFraction rest
    ((Calendar.Timestamp.make year month day hour minute second fraction (readOffset rest)).map
      Value.timestamp).mapError .calendar
  else .error .notTimestamp

def readBinary (text : List Char) : Except Fault Value :=
  if text.all fun c => c.toNat < 0x80 then
    match Text.Base64.decode? text with
    | some bytes => .ok (.bytes bytes)
    | none => .error .malformed
  else .error .malformed

/-- The value of a text as a type; only scalar types have one. -/
def read (tag : Tag) (text : List Char) : Except Fault Value :=
  match tag with
  | .null => .ok .null
  | .bool => (readBool text).map .bool
  | .int => (readInt text).map .int
  | .float => (readFloat text).map .float
  | .binary => readBinary text
  | .timestamp => readTimestamp text
  | .str => .ok (.str (String.ofList text))
  | _ => .error .malformed

end Scalar

end TapeMachine.Yaml
