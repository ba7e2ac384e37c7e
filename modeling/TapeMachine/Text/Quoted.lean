import TapeMachine.Text.Pad
import TapeMachine.Text.Printable

set_option autoImplicit false

namespace TapeMachine.Text

def quoteMark (text : List Char) : Char :=
  if text.contains '\'' && !text.contains '"' then '"' else '\''

/-- A character that has no place in quotes, by its number in the shortest of three widths. -/
def numberEscape (c : Char) : List Char :=
  if c.toNat < 0x100 then '\\' :: 'x' :: hexDigits 'a' 2 c.toNat
  else if c.toNat < 0x10000 then '\\' :: 'u' :: hexDigits 'a' 4 c.toNat
  else '\\' :: 'U' :: hexDigits 'a' 8 c.toNat

/-- A character between quotation marks; those that are `shown` stand for themselves. -/
def quotedChar (shown : Char → Bool) (mark c : Char) : List Char :=
  if c = mark ∨ c = '\\' then ['\\', c]
  else if c = '\t' then ['\\', 't']
  else if c = '\n' then ['\\', 'n']
  else if c = '\r' then ['\\', 'r']
  else if shown c then [c]
  else numberEscape c

def quoted (text : List Char) : List Char :=
  let mark := quoteMark text
  mark :: text.flatMap (quotedChar isPrintable mark) ++ [mark]

/-- A byte string in quotation marks, of which only printable ASCII stands for itself. -/
def quotedBytes (bytes : List UInt8) : List Char :=
  let text := bytes.map fun b => Char.ofNat b.toNat
  let mark := quoteMark text
  'b' :: mark :: text.flatMap (quotedChar (fun c => c.toNat < 0x80 && isPrintable c) mark) ++ [mark]

end TapeMachine.Text
