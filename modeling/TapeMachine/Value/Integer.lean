import TapeMachine.Number.Numeral
import TapeMachine.Text.Quoted
import TapeMachine.Value

set_option autoImplicit false

namespace TapeMachine.Value

def shownLength : Nat := 200

/-- A fault of a numeral, with the numeral itself as the message shows it. -/
def ofNumeralFault (base : Nat) (shown : List Char) : Numeral.Fault → Fault
  | .malformed => .badNumeral base (String.ofList (shown.take shownLength))
  | .tooManyDigits count => .tooManyDigits count

def readNumeral (base : Nat) (text : List Char) : Except Fault Int :=
  (Numeral.parse base text).mapError (ofNumeralFault base (Text.quoted text))

/-- Read the decimal numeral in a byte string, which only ASCII characters can form. -/
def readByteNumeral (bytes : List UInt8) : Except Fault Int :=
  let ascii := bytes.map fun b => if b < 0x80 then Char.ofNat b.toNat else '?'
  (Numeral.parse 10 ascii).mapError (ofNumeralFault 10 (Text.quotedBytes bytes))

def toInt : Value → Except Fault Int
  | bool b => .ok (if b then 1 else 0)
  | int n => .ok n
  | float .nan => .error .nanToInteger
  | float (.infinity _) => .error .infinityToInteger
  | float (.finite negative mantissa exponent) => .ok (Binary64.truncate negative mantissa exponent)
  | str text => readNumeral 10 text.toList
  | bytes bs => readByteNumeral bs
  | v => .error (.notNumeric v.typeName)

end TapeMachine.Value
