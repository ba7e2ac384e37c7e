/-!
Binary floating-point numbers of 64 bits as exact data: a sign, an integer mantissa and a power of
two. Results that need more than 53 bits are rounded to the nearest number, a half to the even
neighbour.
-/

set_option autoImplicit false

namespace TapeMachine

/-- A floating-point number; a finite one is `± mantissa * 2 ^ exponent`. -/
inductive Binary64
  | nan
  | infinity (negative : Bool)
  | finite (negative : Bool) (mantissa : Nat) (exponent : Int)
  deriving DecidableEq

namespace Binary64

def minExponent : Int := -1074

def maxExponent : Int := 971

def zero (negative : Bool) : Binary64 := .finite negative 0 minExponent

def roundDiv (num den : Nat) : Nat :=
  let q := num / den
  let twice := 2 * (num % den)
  if twice < den then q else if den < twice then q + 1 else q + q % 2

/-- The integer part of the binary logarithm of a positive quotient. -/
def log2Quotient (num den : Nat) : Int :=
  let d : Int := (Nat.log2 num : Int) - Nat.log2 den
  if num * Nat.pow 2 (-d).toNat < den * Nat.pow 2 d.toNat then d - 1 else d

/-- The number nearest to `± num / den`. -/
def ofQuotient (negative : Bool) (num den : Nat) : Binary64 :=
  if num = 0 ∨ den = 0 then zero negative
  else
    let q := max (log2Quotient num den - 52) minExponent
    let m := roundDiv (num * Nat.pow 2 (-q).toNat) (den * Nat.pow 2 q.toNat)
    let (m, q) := if m = Nat.pow 2 53 then (Nat.pow 2 52, q + 1) else (m, q)
    if maxExponent < q then .infinity negative else .finite negative m q

/--
The number nearest to `± digits * 10 ^ exponent`; `count` is how many digits there are, zeros at
the start left out.
-/
def ofDecimal (negative : Bool) (digits count : Nat) (exponent : Int) : Binary64 :=
  if digits = 0 then zero negative
  else if 400 < exponent + count then .infinity negative
  else if exponent + count < -400 then zero negative
  else ofQuotient negative (digits * Nat.pow 10 exponent.toNat) (Nat.pow 10 (-exponent).toNat)

def ofInt (n : Int) : Binary64 := ofQuotient (n < 0) n.natAbs 1

/-- The value of a finite number as a numerator over a power of two. -/
def numerator (negative : Bool) (mantissa : Nat) (exponent : Int) : Int :=
  let n : Int := (mantissa * Nat.pow 2 exponent.toNat : Nat)
  if negative then -n else n

def mul : Binary64 → Binary64 → Binary64
  | .finite s m q, .finite t n r =>
    ofQuotient (s != t) (m * n * Nat.pow 2 (q + r).toNat) (Nat.pow 2 (-(q + r)).toNat)
  | .nan, _ => .nan
  | _, .nan => .nan
  | .infinity s, .infinity t => .infinity (s != t)
  | .infinity s, .finite t m _ => if m = 0 then .nan else .infinity (s != t)
  | .finite s m _, .infinity t => if m = 0 then .nan else .infinity (s != t)

def add : Binary64 → Binary64 → Binary64
  | .finite s m q, .finite t n r =>
    let e := min q r
    let total := numerator s m (q - e) + numerator t n (r - e)
    if total = 0 then zero (s && t)
    else ofQuotient (total < 0) (total.natAbs * Nat.pow 2 e.toNat) (Nat.pow 2 (-e).toNat)
  | .nan, _ => .nan
  | _, .nan => .nan
  | .infinity s, .infinity t => if s = t then .infinity s else .nan
  | .infinity s, .finite .. => .infinity s
  | .finite .., .infinity t => .infinity t

def neg : Binary64 → Binary64
  | .nan => .nan
  | .infinity s => .infinity (!s)
  | .finite s m q => .finite (!s) m q

def truncate (negative : Bool) (mantissa : Nat) (exponent : Int) : Int :=
  let n : Int := (mantissa * Nat.pow 2 exponent.toNat / Nat.pow 2 (-exponent).toNat : Nat)
  if negative then -n else n

def hasFraction (mantissa : Nat) (exponent : Int) : Bool :=
  mantissa * Nat.pow 2 exponent.toNat % Nat.pow 2 (-exponent).toNat != 0

def equalsInt (x : Binary64) (n : Int) : Bool :=
  match x with
  | .finite s m q => !hasFraction m q && truncate s m q == n
  | _ => false

/-- Whether two numbers are equal in value: both zeros are, and `nan` equals nothing. -/
def sameValue : Binary64 → Binary64 → Bool
  | .finite _ 0 _, .finite _ 0 _ => true
  | .nan, _ => false
  | x, y => x == y

def isZero : Binary64 → Bool
  | .finite _ 0 _ => true
  | _ => false

end Binary64

end TapeMachine
