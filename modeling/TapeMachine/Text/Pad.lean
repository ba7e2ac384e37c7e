set_option autoImplicit false

namespace TapeMachine.Text

/-- Fill a text on the left with a character up to a least width; longer text is kept whole. -/
def padLeft (width : Nat) (fill : Char) (text : List Char) : List Char :=
  List.replicate (width - text.length) fill ++ text

def decimal (n : Nat) : List Char := Nat.toDigits 10 n

def column (width n : Nat) : String := String.ofList (padLeft width ' ' (decimal n))

/-- A number of at least `width` digits, filled by zeros. -/
def zeroFilled (width n : Nat) : String := String.ofList (padLeft width '0' (decimal n))

/-- The hexadecimal digit of a number below sixteen, with a letter from `a` upward past nine. -/
def hexDigit (a : Char) (n : Nat) : Char :=
  if n < 10 then Char.ofNat ('0'.toNat + n) else Char.ofNat (a.toNat + (n - 10))

/-- The hexadecimal digits of a number, as many as `width` asks for. -/
def hexDigits (a : Char) : (width : Nat) → (n : Nat) → List Char
  | 0, _ => []
  | width + 1, n => hexDigits a width (n / 16) ++ [hexDigit a (n % 16)]

/-- A number as `width` hexadecimal digits in capitals. -/
def upperHex (width n : Nat) : String := String.ofList (hexDigits 'A' width n)

/-- A number as `width` hexadecimal digits in small letters. -/
def lowerHex (width n : Nat) : String := String.ofList (hexDigits 'a' width n)

end TapeMachine.Text
