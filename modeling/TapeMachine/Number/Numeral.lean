import TapeMachine.Text.Blank
import TapeMachine.Text.DecimalDigit

set_option autoImplicit false

namespace TapeMachine.Numeral

/-- Why a text is no integer. -/
inductive Fault
  | malformed
  | tooManyDigits (count : Nat)
  deriving DecidableEq

/-- The most digits that are read in a base that is no power of two. -/
def maxDigits : Nat := 4300

/-- White space and decimal digits of all scripts, replaced by those of ASCII. -/
def toAscii (text : List Char) : List Char :=
  text.map fun c =>
    if c.toNat < 0x80 then c
    else if Text.isBlank c then ' '
    else match Text.decimalDigit? c with
      | some d => Char.ofNat ('0'.toNat + d)
      | none => c

def digit? (c : Char) : Option Nat :=
  if '0' ≤ c ∧ c ≤ '9' then some (c.toNat - '0'.toNat)
  else if 'a' ≤ c ∧ c ≤ 'z' then some (c.toNat - 'a'.toNat + 10)
  else if 'A' ≤ c ∧ c ≤ 'Z' then some (c.toNat - 'A'.toNat + 10)
  else none

def isDigit (base : Nat) (c : Char) : Bool :=
  match digit? c with
  | some d => d < base
  | none => false

/-- The number that digits stand for; other characters do not count. -/
def value (base : Nat) (digits : List Char) : Nat :=
  digits.foldl (fun n c => match digit? c with | some d => n * base + d | none => n) 0

/-- Whether every underscore stands between two other characters. -/
def underscoresSeparate : (afterDigit : Bool) → List Char → Bool
  | afterDigit, [] => afterDigit
  | afterDigit, c :: rest =>
    if c = '_' then afterDigit && underscoresSeparate false rest
    else underscoresSeparate true rest

def marker? : Nat → Option Char
  | 2 => some 'b'
  | 8 => some 'o'
  | 16 => some 'x'
  | _ => none

/-- A text without the marker of its base and the underscore that may follow it. -/
def dropMarker (base : Nat) (text : List Char) : List Char :=
  match text with
  | '0' :: c :: rest =>
    if (marker? base).any fun letter => c = letter ∨ c = letter.toUpper then
      match rest with
      | '_' :: digits => digits
      | _ => rest
    else text
  | _ => text

def splitSign : List Char → Bool × List Char
  | '-' :: rest => (true, rest)
  | '+' :: rest => (false, rest)
  | text => (false, text)

def parse (base : Nat) (text : List Char) : Except Fault Int :=
  let (negative, unsigned) := splitSign ((toAscii text).dropWhile Text.isAsciiBlank)
  let body := dropMarker base unsigned
  let inNumber := fun c => isDigit base c || c = '_'
  let digits := body.takeWhile inNumber
  let count := (digits.filter (· ≠ '_')).length
  if digits ≠ [] ∧ !underscoresSeparate false digits then .error .malformed
  else if maxDigits < count ∧ (marker? base).isNone then .error (.tooManyDigits count)
  else if count = 0 ∨ !(body.dropWhile inNumber).all Text.isAsciiBlank then .error .malformed
  else
    let n := (value base digits : Int)
    .ok (if negative then -n else n)

end TapeMachine.Numeral
