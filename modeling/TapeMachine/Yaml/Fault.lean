import TapeMachine.Calendar
import TapeMachine.Text.Utf8
import TapeMachine.Value

set_option autoImplicit false

namespace TapeMachine.Yaml

/-- Why a document cannot be read or written. -/
inductive Fault
  /-- The text breaks a rule of the format. -/
  | malformed
  /-- The bytes do not make a text. -/
  | encoding (fault : Text.Utf8.Fault)
  /-- A scalar that was said to be a number is none. -/
  | number (fault : Value.Fault)
  | notFloat (shown : String)
  /-- A part of a number in base sixty counts more than any floating-point number. -/
  | unitTooLarge
  | emptyNumber
  | notBoolean (shown : String)
  | calendar (fault : Calendar.Fault)
  | notTimestamp
  /-- A mapping that has a default value was said to be a timestamp. -/
  | timestampOfMapping
  /-- An escape names no code point; the flag tells whether the number is beyond 31 bits. -/
  | codePoint (beyond : Bool)
  /-- Collections stand too deep inside each other. -/
  | tooDeep
  /-- An integer has more digits than are written. -/
  | longInteger
  deriving DecidableEq

def Fault.message : Fault → String
  | malformed => "<yaml error>"
  | encoding fault => fault.message
  | number fault => fault.message
  | notFloat shown => "could not convert string to float: " ++ shown
  | unitTooLarge => "int too large to convert to float"
  | emptyNumber => "string index out of range"
  | notBoolean shown => shown
  | calendar fault => fault.message
  | notTimestamp => "'NoneType' object has no attribute 'groupdict'"
  | timestampOfMapping => "expected string or bytes-like object, got 'list'"
  | codePoint beyond =>
    if beyond then "Python int too large to convert to C int"
    else "chr() arg not in range(0x110000)"
  | tooDeep => "maximum recursion depth exceeded"
  | longInteger =>
    "Exceeds the limit (4300 digits) for integer string conversion; " ++
      "use sys.set_int_max_str_digits() to increase the limit"

end TapeMachine.Yaml
