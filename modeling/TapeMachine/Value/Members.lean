import TapeMachine.Value

/-!
The order in which a set gives its members. A set is a table of slots and gives them slot by slot.
The slot of a number follows from its hash and from the numbers put in before it. What is no number
has a hash that differs from run to run, so that nothing is promised about the order of a set with
such a member: here it is the order in which the members were put in.
-/

set_option autoImplicit false

namespace TapeMachine.Value

/-- How many slots a set of some size has: a power of two that leaves half of them free. -/
def slotCount (size : Nat) : Nat := if size < 5 then 8 else (2 * size + 1).nextPowerOfTwo

/-- A remainder with the sign of its number; `-1` is no hash. -/
def signedHash (negative : Bool) (remainder : Nat) : Int :=
  let n := (remainder : Int) % (Nat.pow 2 61 - 1)
  if negative then (if n = 1 then -2 else -n) else n

/-- The hash of a number. Two to the power of 61 leaves one, so that exponents count modulo 61. -/
def numberHash? : Value → Option Int
  | bool b => some (if b then 1 else 0)
  | int n => some (signedHash (n < 0) n.natAbs)
  | float (.finite negative mantissa exponent) =>
    some (signedHash negative (mantissa * Nat.pow 2 (exponent % 61).toNat))
  | float (.infinity negative) => some (if negative then -314159 else 314159)
  | _ => none

section Slots

variable {α : Type}

def isFree (table : Array (Option α)) (i : Nat) : Bool := (table[i]?.getD none).isNone

/-- A slot is tried together with the nine behind it, unless the table ends before. -/
def freeNear? (table : Array (Option α)) (i : Nat) : Option Nat :=
  (List.range' i (if i + 9 < table.size then 10 else 1)).find? (isFree table)

/--
The slot for a new member, the search being at slot `i` with `rest` of the hash still to be used.
Once all of it is used, as many jumps as there are slots lead to every slot.
-/
def freeSlot? (table : Array (Option α)) : (jumps i rest : Nat) → Option Nat
  | 0, i, _ => freeNear? table i
  | jumps + 1, i, rest =>
    match freeNear? table i with
    | some free => some free
    | none =>
      let rest := rest / 32
      freeSlot? table jumps ((5 * i + 1 + rest) % table.size) rest

def insert (table : Array (Option α)) (hash : Int) (member : α) : Array (Option α) :=
  let bits := (hash % Nat.pow 2 64).toNat
  match freeSlot? table (13 + table.size) (bits % table.size) bits with
  | some free => table.setIfInBounds free (some member)
  | none => table.push (some member)

/-- What stands for the members of a set, in the order in which the set gives them. -/
def inSetOrder (valueOf : α → Value) (members : List α) : List α :=
  match members.mapM fun member =>
      (numberHash? (valueOf member)).map fun hash => (hash, member) with
  | some hashed =>
    let empty := Array.replicate (slotCount members.length) none
    (hashed.foldl (fun table (hash, member) => insert table hash member) empty).toList.reduceOption
  | none => members

end Slots

end TapeMachine.Value
