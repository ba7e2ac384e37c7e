import TapeMachine.Number.Binary64
import TapeMachine.Number.Numeral

set_option autoImplicit false

namespace TapeMachine.Binary64

/-- The value of the part from the exponent letter on; none if it is not well formed. -/
def exponentPart? : List Char → Option Int
  | [] => some 0
  | letter :: rest =>
    if letter = 'e' ∨ letter = 'E' then
      let (negative, digits) := Numeral.splitSign rest
      if digits.isEmpty || !digits.all Char.isDigit then none
      else
        let n := (Numeral.value 10 digits : Int)
        some (if negative then -n else n)
    else none

/-- Read digits with an optional point among them and an optional exponent after them. -/
def decimal? (negative : Bool) (text : List Char) : Option Binary64 :=
  let whole := text.takeWhile Char.isDigit
  let afterWhole := text.dropWhile Char.isDigit
  let (places, rest) :=
    match afterWhole with
    | '.' :: more => (more.takeWhile Char.isDigit, more.dropWhile Char.isDigit)
    | _ => ([], afterWhole)
  let digits := whole ++ places
  if digits.isEmpty then none
  else
    (exponentPart? rest).map fun exponent =>
      let count := (digits.dropWhile (· == '0')).length
      ofDecimal negative (Numeral.value 10 digits) count (exponent - places.length)

/-- Read a number; none if the text is not one. -/
def parse? (text : List Char) : Option Binary64 :=
  let start := (Numeral.toAscii text).dropWhile Text.isAsciiBlank
  let body := (start.reverse.dropWhile Text.isAsciiBlank).reverse
  let (negative, unsigned) := Numeral.splitSign body
  let word := String.ofList (unsigned.map Char.toLower)
  if word = "inf" ∨ word = "infinity" then some (.infinity negative)
  else if word = "nan" then some .nan
  else decimal? negative unsigned

end TapeMachine.Binary64
