import TapeMachine.Calendar
import TapeMachine.Number.Binary64

/-!
The values that configurations, records and callers hand over: scalars, sequences and mappings
whose type is known only when they are looked at. Mappings keep the order in which their keys were
first put in. Numbers that are equal are one key, whatever their type.
-/

set_option autoImplicit false

namespace TapeMachine

/-- A value of any type. -/
inductive Value
  | null
  | bool (b : Bool)
  | int (n : Int)
  | float (x : Binary64)
  | str (text : String)
  | bytes (bytes : List UInt8)
  | list (items : List Value)
  | map (entries : List (Value × Value))
  | set (items : List Value)
  | pair (first second : Value)
  | date (d : Calendar.Date)
  | timestamp (t : Calendar.Timestamp)
  | path (text : String)
  deriving Inhabited

namespace Value

/-- Why a value cannot be used the way it is asked for. -/
inductive Fault
  | badNumeral (base : Nat) (shown : String)
  | tooManyDigits (count : Nat)
  | notNumeric (typeName : String)
  | nanToInteger
  | infinityToInteger
  | notIterable (typeName : String)
  | unhashable (typeName : String)
  | wrongLength (length : Nat)
  | notText (typeName : String)
  | notComparable (typeName : String)
  deriving DecidableEq

def Fault.message : Fault → String
  | badNumeral base shown => s!"invalid literal for int() with base {base}: {shown}"
  | tooManyDigits count =>
    s!"Exceeds the limit (4300 digits) for integer string conversion: value has {count} digits; " ++
      "use sys.set_int_max_str_digits() to increase the limit"
  | notNumeric typeName =>
    "int() argument must be a string, a bytes-like object or a real number, not '" ++ typeName ++
      "'"
  | nanToInteger => "cannot convert float NaN to integer"
  | infinityToInteger => "cannot convert float infinity to integer"
  | notIterable typeName => "'" ++ typeName ++ "' object is not iterable"
  | unhashable typeName => "unhashable type: '" ++ typeName ++ "'"
  | wrongLength length =>
    s!"ord() expected a character, but string of length {length} found"
  | notText typeName => s!"ord() expected string of length 1, but {typeName} found"
  | notComparable typeName =>
    "'<' not supported between instances of 'int' and '" ++ typeName ++ "'"

def typeName : Value → String
  | null => "NoneType"
  | bool _ => "bool"
  | int _ => "int"
  | float _ => "float"
  | str _ => "str"
  | bytes _ => "bytes"
  | list _ => "list"
  | map _ => "dict"
  | set _ => "set"
  | pair _ _ => "tuple"
  | date _ => "datetime.date"
  | timestamp _ => "datetime.datetime"
  | path _ => "PosixPath"

/-- Whether a value counts as true: nothing, zero and what is empty do not. -/
def isTruthy : Value → Bool
  | null => false
  | bool b => b
  | int n => n != 0
  | float x => !x.isZero
  | str text => text != ""
  | bytes bs => !bs.isEmpty
  | list items => !items.isEmpty
  | map entries => !entries.isEmpty
  | set items => !items.isEmpty
  | pair _ _ => true
  | date _ => true
  | timestamp _ => true
  | path _ => true

def unhashableType? : Value → Option String
  | list _ => some "list"
  | map _ => some "dict"
  | set _ => some "set"
  | pair first second => first.unhashableType?.or second.unhashableType?
  | _ => none

/-- The values that a value runs through, one after the other; a mapping runs through its keys. -/
def elements : Value → Except Fault (List Value)
  | str text => .ok (text.toList.map fun c => str c.toString)
  | bytes bs => .ok (bs.map fun b => int b.toNat)
  | list items => .ok items
  | map entries => .ok (entries.map Prod.fst)
  | set items => .ok items
  | pair first second => .ok [first, second]
  | v => .error (.notIterable v.typeName)

def integral? : Value → Option Int
  | bool b => some (if b then 1 else 0)
  | int n => some n
  | _ => none

def sameKey : Value → Value → Bool
  | pair a b, pair c d => sameKey a c && sameKey b d
  | null, null => true
  | str s, str t => s == t
  | bytes s, bytes t => s == t
  | date s, date t => s == t
  | timestamp s, timestamp t => s.sameMoment t
  | path s, path t => s == t
  | float x, float y => x.sameValue y
  | float x, w => w.integral?.any x.equalsInt
  | v, float y => v.integral?.any y.equalsInt
  | v, w => v.integral?.isSome && v.integral? == w.integral?

abbrev Entries := List (Value × Value)

/-- Put a value under a key: a key that is there keeps its place and its spelling. -/
def Entries.put (key value : Value) : Entries → Entries
  | [] => [(key, value)]
  | (k, v) :: rest => if sameKey k key then (k, value) :: rest else (k, v) :: put key value rest

/-- The entries that result from putting in pairs one after the other. -/
def Entries.ofPairs (pairs : List (Value × Value)) : Entries :=
  pairs.foldl (fun entries entry => Entries.put entry.1 entry.2 entries) []

def Entries.get? (name : String) (entries : Entries) : Option Value :=
  (entries.find? fun entry => sameKey entry.1 (str name)).map Prod.snd

end Value

end TapeMachine
