import Conformance.Text.Hex

/-!
# Dates and times

Proleptic Gregorian dates and times of day to the microsecond, with an optional distance from
universal time in minutes.
-/

namespace Conformance

structure Date where
  year : Nat
  month : Nat
  day : Nat
  deriving DecidableEq

structure Moment where
  date : Date
  hour : Nat
  minute : Nat
  second : Nat
  microsecond : Nat
  offset : Option Int
  deriving DecidableEq

namespace Date

def isLeap (year : Nat) : Bool := year % 4 == 0 && (year % 100 != 0 || year % 400 == 0)

def monthLength (year month : Nat) : Nat :=
  match month with
  | 2 => if isLeap year then 29 else 28
  | 4 | 6 | 9 | 11 => 30
  | _ => 31

def daysBeforeYear (year : Nat) : Nat :=
  let past := year - 1
  past * 365 + past / 4 - past / 100 + past / 400

/-- The number of a day, one for the first day of year one. -/
def ordinal (date : Date) : Nat :=
  daysBeforeYear date.year
    + (List.range (date.month - 1)).foldl (fun days m => days + monthLength date.year (m + 1)) 0
    + date.day

def less (a b : Date) : Bool := a.ordinal < b.ordinal

def padded (width n : Nat) : String :=
  let digits := toString n
  String.ofList (List.replicate (width - digits.length) '0') ++ digits

def text (date : Date) : String :=
  padded 4 date.year ++ "-" ++ padded 2 date.month ++ "-" ++ padded 2 date.day

end Date

namespace Moment

/-- Microseconds since the start of year one on the clock that the moment shows. -/
def clock (m : Moment) : Int :=
  ((((m.date.ordinal : Int) * 24 + m.hour) * 60 + m.minute) * 60 + m.second) * 1000000
    + m.microsecond

/-- Microseconds since the start of year one in universal time. -/
def universal (m : Moment) (offset : Int) : Int := m.clock - offset * 60000000

def offsetText (offset : Int) : String :=
  (if offset < 0 then "-" else "+") ++ Date.padded 2 (offset.natAbs / 60) ++ ":"
    ++ Date.padded 2 (offset.natAbs % 60)

def text (m : Moment) : String :=
  let fraction := if m.microsecond = 0 then "" else "." ++ Date.padded 6 m.microsecond
  m.date.text ++ "T" ++ Date.padded 2 m.hour ++ ":" ++ Date.padded 2 m.minute ++ ":"
    ++ Date.padded 2 m.second ++ fraction ++ (m.offset.map offsetText).getD ""

end Moment

end Conformance
