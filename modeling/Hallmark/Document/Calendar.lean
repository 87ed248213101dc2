/-
# Hallmark.Document.Calendar -- dates and moments

A date of the Gregorian calendar in the years 1 to 9999, and a moment: a date with a
time of day, counted to the microsecond, and possibly a distance from universal time.
`Date.check` and `Clock.check` name the first component that is out of range.
-/
import Hallmark.Decimal.Shortest

namespace Hallmark.Document

set_option autoImplicit false

structure Date where
  year : Nat
  month : Nat
  day : Nat
deriving DecidableEq, Repr

structure Clock where
  hour : Nat
  minute : Nat
  second : Nat
  micro : Nat
deriving DecidableEq, Repr

/-- `offset` is the distance from universal time in minutes, where it is known. -/
structure Moment where
  date : Date
  clock : Clock
  offset : Option Int
deriving DecidableEq, Repr

def isLeap (year : Nat) : Bool :=
  year % 4 == 0 && (year % 100 != 0 || year % 400 == 0)

def daysIn (year month : Nat) : Nat :=
  if month = 2 then (if isLeap year then 29 else 28)
  else if month = 4 ∨ month = 6 ∨ month = 9 ∨ month = 11 then 30
  else 31

/-- Days from the beginning of the calendar. -/
def Date.ordinal (d : Date) : Nat :=
  let before := d.year - 1
  let inYear := (List.range (d.month - 1)).foldl (fun days m => days + daysIn d.year (m + 1)) 0
  365 * before + before / 4 - before / 100 + before / 400 + inYear + d.day

/-- Millionths of a second from the beginning of the calendar by the clock on the wall. -/
def Moment.wall (m : Moment) : Int :=
  let c := m.clock
  (((m.date.ordinal * 24 + c.hour) * 60 + c.minute) * 60 + c.second) * 1000000 + c.micro

/-- The same for universal time, where the distance from it is known. -/
def Moment.instant? (m : Moment) : Option Int := m.offset.map fun o => m.wall - o * 60000000

/-- Moments are the same at the same instant; where universal time is not known for one of
them it is known for neither, and they show the same clock. -/
def Moment.same (m n : Moment) : Bool :=
  match m.instant?, n.instant? with
  | some a, some b => a == b
  | none, none => m == n
  | _, _ => false

/-- The components of a moment that can be out of range. -/
inductive OutOfRange where
  | year (n : Nat)
  | month
  | day
  | hour
  | minute
  | second
  | offset (minutes : Int)
deriving DecidableEq, Repr

def Date.check (d : Date) : Except OutOfRange Date :=
  if d.year = 0 then .error (.year d.year)
  else if d.month = 0 ∨ 12 < d.month then .error .month
  else if d.day = 0 ∨ daysIn d.year d.month < d.day then .error .day
  else .ok d

def Clock.check (c : Clock) : Except OutOfRange Clock :=
  if 23 < c.hour then .error .hour
  else if 59 < c.minute then .error .minute
  else if 59 < c.second then .error .second
  else .ok c

/-- Offsets lie strictly within one day of universal time. -/
def checkOffset (minutes : Int) : Except OutOfRange Int :=
  if -1440 < minutes ∧ minutes < 1440 then .ok minutes else .error (.offset minutes)

/-- `n` in decimal with at least `width` digits. -/
def padded (width n : Nat) : String :=
  String.ofList (Decimal.padLeft width (Nat.toDigits 10 n))

/-- Year, month and day joined by hyphens. -/
def Date.shown (d : Date) : String :=
  padded 4 d.year ++ "-" ++ padded 2 d.month ++ "-" ++ padded 2 d.day

def shownOffset (minutes : Int) : String :=
  let size := minutes.natAbs
  (if minutes < 0 then "-" else "+") ++ padded 2 (size / 60) ++ ":" ++ padded 2 (size % 60)

def Moment.shown (m : Moment) : String :=
  let c := m.clock
  m.date.shown ++ " " ++ padded 2 c.hour ++ ":" ++ padded 2 c.minute ++ ":" ++ padded 2 c.second
    ++ (if c.micro = 0 then "" else "." ++ padded 6 c.micro)
    ++ (m.offset.map shownOffset).getD ""

end Hallmark.Document
