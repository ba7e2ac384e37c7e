set_option autoImplicit false

namespace TapeMachine.Text.Base64

def alphabet : List Char :=
  "ABCDEFGHIJKLMNOPQRSTUVWXYZabcdefghijklmnopqrstuvwxyz0123456789+/".toList

def number? (c : Char) : Option Nat := alphabet.idxOf? c

def digit (n : Nat) : Char := alphabet.getD n '='

/--
Read the rest of a text: `held` are the bits that do not make a byte yet, `count` is how many
characters of the current group have been read and `pads` how many signs of padding follow them.
-/
def decodeFrom : (held count pads : Nat) → List Char → Option (List UInt8)
  | _, count, _, [] => if count = 0 then some [] else none
  | held, count, pads, c :: rest =>
    if c = '=' then
      if 2 ≤ count then
        if 4 ≤ count + pads + 1 then some [] else decodeFrom held count (pads + 1) rest
      else decodeFrom held count pads rest
    else
      match number? c with
      | none => decodeFrom held count pads rest
      | some n =>
        match count with
        | 0 => decodeFrom n 1 0 rest
        | 1 => (decodeFrom (n % 16) 2 0 rest).map (UInt8.ofNat (held * 4 + n / 16) :: ·)
        | 2 => (decodeFrom (n % 4) 3 0 rest).map (UInt8.ofNat (held * 16 + n / 4) :: ·)
        | _ => (decodeFrom 0 0 0 rest).map (UInt8.ofNat (held * 64 + n) :: ·)

def decode? (text : List Char) : Option (List UInt8) := decodeFrom 0 0 0 text

def encode : List UInt8 → List Char
  | [] => []
  | [a] => [digit (a.toNat / 4), digit (a.toNat % 4 * 16), '=', '=']
  | [a, b] =>
    [digit (a.toNat / 4), digit (a.toNat % 4 * 16 + b.toNat / 16), digit (b.toNat % 16 * 4), '=']
  | a :: b :: c :: rest =>
    digit (a.toNat / 4) :: digit (a.toNat % 4 * 16 + b.toNat / 16) ::
      digit (b.toNat % 16 * 4 + c.toNat / 64) :: digit (c.toNat % 64) :: encode rest

def bytesPerLine : Nat := 57

def lines : (fuel : Nat) → List UInt8 → List (List Char)
  | 0, _ => []
  | fuel + 1, bytes =>
    if bytes.isEmpty then []
    else encode (bytes.take bytesPerLine) :: lines fuel (bytes.drop bytesPerLine)

def encodeLines (bytes : List UInt8) : List (List Char) := lines bytes.length bytes

end TapeMachine.Text.Base64
