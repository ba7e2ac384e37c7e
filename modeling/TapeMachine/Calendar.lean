import TapeMachine.Text.Pad

set_option autoImplicit false

namespace TapeMachine.Calendar

/-- Why some numbers are no date or no time of day. -/
inductive Fault
  | year (n : Nat)
  | month
  | day
  | hour
  | minute
  | second
  | offset (minutes : Int)
  deriving DecidableEq

/-- A span of at least a day, as days and the seconds of the day that is left. -/
def spanText (minutes : Int) : String :=
  let seconds := minutes % 1440 * 60
  let days := s!"datetime.timedelta(days={minutes / 1440}"
  if seconds = 0 then days ++ ")" else days ++ s!", seconds={seconds})"

def Fault.message : Fault → String
  | year n => s!"year {n} is out of range"
  | month => "month must be in 1..12"
  | day => "day is out of range for month"
  | hour => "hour must be in 0..23"
  | minute => "minute must be in 0..59"
  | second => "second must be in 0..59"
  | offset minutes =>
    "offset must be a timedelta strictly between -timedelta(hours=24) and timedelta(hours=24), " ++
      "not " ++ spanText minutes ++ "."

/-- A day of the calendar. -/
structure Date where
  year : Nat
  month : Nat
  day : Nat
  deriving DecidableEq

def isLeap (year : Nat) : Bool := year % 4 = 0 ∧ (year % 100 ≠ 0 ∨ year % 400 = 0)

def daysIn (year month : Nat) : Nat :=
  if month = 2 then (if isLeap year then 29 else 28)
  else if month = 4 ∨ month = 6 ∨ month = 9 ∨ month = 11 then 30
  else 31

def Date.make (year month day : Nat) : Except Fault Date :=
  if year = 0 ∨ 9999 < year then .error (.year year)
  else if month = 0 ∨ 12 < month then .error .month
  else if day = 0 ∨ daysIn year month < day then .error .day
  else .ok ⟨year, month, day⟩

/-- The number of days before a date, counted from the first day of year 1. -/
def Date.ordinal (d : Date) : Nat :=
  let past := d.year - 1
  let inMonths := (List.range (d.month - 1)).foldl (fun n m => n + daysIn d.year (m + 1)) 0
  past * 365 + past / 4 - past / 100 + past / 400 + inMonths + (d.day - 1)

def Date.text (d : Date) : String :=
  Text.zeroFilled 4 d.year ++ "-" ++ Text.zeroFilled 2 d.month ++ "-" ++ Text.zeroFilled 2 d.day

/-- A moment: a date, a time of day and, where it is known, how far local time is ahead. -/
structure Timestamp where
  date : Date
  hour : Nat
  minute : Nat
  second : Nat
  microsecond : Nat
  /-- Minutes by which local time is ahead of universal time. -/
  offset? : Option Int
  deriving DecidableEq

def Timestamp.make (year month day hour minute second microsecond : Nat) (offset? : Option Int) :
    Except Fault Timestamp :=
  match offset?.filter fun minutes => 1440 ≤ minutes.natAbs with
  | some minutes => .error (.offset minutes)
  | none =>
    match Date.make year month day with
    | .error fault => .error fault
    | .ok date =>
      if 23 < hour then .error .hour
      else if 59 < minute then .error .minute
      else if 59 < second then .error .second
      else .ok ⟨date, hour, minute, second, microsecond, offset?⟩

/-- Microseconds since the first day of year 1, in universal time where the offset is known. -/
def Timestamp.instant (t : Timestamp) : Int :=
  let minutes : Int := t.date.ordinal * 1440 + t.hour * 60 + t.minute
  ((minutes - t.offset?.getD 0) * 60 + t.second) * 1000000 + t.microsecond

/-- Whether two timestamps are the same moment; one without an offset equals none that has one. -/
def Timestamp.sameMoment (s t : Timestamp) : Bool :=
  s.offset?.isSome == t.offset?.isSome && s.instant == t.instant

def offsetText (minutes : Int) : String :=
  (if minutes < 0 then "-" else "+") ++ Text.zeroFilled 2 (minutes.natAbs / 60) ++ ":" ++
    Text.zeroFilled 2 (minutes.natAbs % 60)

/-- A moment as date, time with a fraction only where it is needed, and offset. -/
def Timestamp.text (t : Timestamp) : String :=
  let fraction := if t.microsecond = 0 then "" else "." ++ Text.zeroFilled 6 t.microsecond
  let offset := match t.offset? with
    | some minutes => offsetText minutes
    | none => ""
  t.date.text ++ " " ++ Text.zeroFilled 2 t.hour ++ ":" ++ Text.zeroFilled 2 t.minute ++ ":" ++
    Text.zeroFilled 2 t.second ++ fraction ++ offset

end TapeMachine.Calendar
