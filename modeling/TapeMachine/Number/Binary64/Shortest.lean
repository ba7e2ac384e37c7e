import TapeMachine.Number.Binary64
import TapeMachine.Text.Pad

set_option autoImplicit false

namespace TapeMachine.Binary64

/-- A positive value and the bounds of the values that round to it, all over one denominator. -/
structure Interval where
  low : Nat
  value : Nat
  high : Nat
  den : Nat
  /-- Whether the bounds themselves still round to the value. -/
  closed : Bool

/-- The values that round to `mantissa * 2 ^ exponent`. -/
def interval (mantissa : Nat) (exponent : Int) : Interval :=
  let below := if mantissa = Nat.pow 2 52 ∧ minExponent < exponent then 1 else 2
  let scale := Nat.pow 2 (exponent - 2).toNat
  { low := (4 * mantissa - below) * scale
    value := 4 * mantissa * scale
    high := (4 * mantissa + 2) * scale
    den := Nat.pow 2 (2 - exponent).toNat
    closed := mantissa % 2 == 0 }

/-- Whether `digits * 10 ^ k` lies in an interval. -/
def Interval.contains (i : Interval) (digits : Nat) (k : Int) : Bool :=
  let point := digits * Nat.pow 10 k.toNat * i.den
  let scale := Nat.pow 10 (-k).toNat
  if i.closed then i.low * scale ≤ point && point ≤ i.high * scale
  else i.low * scale < point && point < i.high * scale

/-- The multiple of `10 ^ k` nearest to the value of an interval, if one lies in the interval. -/
def Interval.onGrid? (i : Interval) (k : Int) : Option Nat :=
  let num := i.value * Nat.pow 10 (-k).toNat
  let den := i.den * Nat.pow 10 k.toNat
  let under := num / den
  let twice := 2 * (num % den)
  let nearest := if twice < den ∨ (twice = den ∧ under % 2 = 0) then under else under + 1
  let other := if nearest = under then under + 1 else under
  if i.contains nearest k then some nearest
  else if i.contains other k then some other
  else none

/-- The number of decimal digits before the point of a quotient, negative for small quotients. -/
def decimalPoint (num den : Nat) : Int :=
  let guess : Int := ((Nat.log2 num : Int) - Nat.log2 den) * 30103 / 100000
  let reaches := fun (k : Int) => den * Nat.pow 10 k.toNat ≤ num * Nat.pow 10 (-k).toNat
  if reaches (guess + 1) then guess + 2
  else if reaches guess then guess + 1
  else guess

/-- The first grid, from coarse to fine, that has a point in the interval. -/
def Interval.search (i : Interval) (point : Int) : (fuel count : Nat) → Nat × Int
  | 0, count => (i.value * Nat.pow 10 (count - point).toNat / i.den, point - count)
  | fuel + 1, count =>
    match i.onGrid? (point - count) with
    | some digits => (digits, point - count)
    | none => i.search point fuel (count + 1)

/-- Digits without the zeros at their end, and the exponent that goes with them. -/
def trimZeros : (fuel : Nat) → Nat → Int → Nat × Int
  | 0, digits, k => (digits, k)
  | fuel + 1, digits, k =>
    if digits ≠ 0 ∧ digits % 10 = 0 then trimZeros fuel (digits / 10) (k + 1) else (digits, k)

/-- The shortest digits of a positive number, and the power of ten they count. -/
def shortest (mantissa : Nat) (exponent : Int) : Nat × Int :=
  let i := interval mantissa exponent
  let (digits, k) := i.search (decimalPoint i.value i.den) 17 1
  trimZeros 20 digits k

/-- Digits that count `10 ^ k`, written with a point and at least one place after it. -/
def positional (digits : List Char) (k : Int) : List Char :=
  let point : Int := digits.length + k
  if 0 ≤ k then digits ++ List.replicate k.toNat '0' ++ ['.', '0']
  else if 0 < point then digits.take point.toNat ++ '.' :: digits.drop point.toNat
  else '0' :: '.' :: List.replicate (-point).toNat '0' ++ digits

/-- Digits that count `10 ^ k`, written with one digit before the point and an exponent. -/
def scientific (digits : List Char) (k : Int) : List Char :=
  let exponent : Int := digits.length + k - 1
  let tail := match digits.drop 1 with
    | [] => []
    | more => '.' :: more
  digits.take 1 ++ tail ++ 'e' :: (if exponent < 0 then '-' else '+') ::
    Text.padLeft 2 '0' (Text.decimal exponent.natAbs)

/--
The text of a number: positional from `0.0001` to below `10 ^ 16`, with an exponent of at least two
digits elsewhere.
-/
def text : Binary64 → String
  | .nan => "nan"
  | .infinity negative => if negative then "-inf" else "inf"
  | .finite negative mantissa exponent =>
    let sign := if negative then ['-'] else []
    if mantissa = 0 then String.ofList (sign ++ ['0', '.', '0'])
    else
      let (n, k) := shortest mantissa exponent
      let digits := Text.decimal n
      let point : Int := digits.length + k
      String.ofList (sign ++
        (if -4 < point ∧ point ≤ 16 then positional digits k else scientific digits k))

end TapeMachine.Binary64
