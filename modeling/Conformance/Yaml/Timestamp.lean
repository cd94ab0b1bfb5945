import Conformance.Numeral
import Conformance.Value
import Conformance.Yaml.Implicit

/-!
# Timestamps

A date, or a date with a time of day, which may tell its distance from universal time. The text
has the form of a timestamp; whether its numbers are those of a date is checked here.
-/

namespace Conformance.Yaml

def timestampForm : Regex.Node :=
  Regex.ofText <|
    "^([0-9][0-9][0-9][0-9])-([0-9][0-9]?)-([0-9][0-9]?)"
      ++ "(?:(?:[Tt]|[ \\t]+)([0-9][0-9]?):([0-9][0-9]):([0-9][0-9])(?:\\.([0-9]*))?"
      ++ "(?:[ \\t]*(Z|([-+])([0-9][0-9]?)(?::([0-9][0-9]))?))?)?$"

def timestampParts? (text : List Char) : Option (Nat → Option (List Char)) :=
  (timestampForm.matchAt (Regex.subject text) 0).map fun place index =>
    (place.capture? index).map fun capture =>
      (text.drop capture.first).take (capture.last - capture.first)

def decimal (digits : List Char) : Nat := (Numeral.ofDigits? 10 digits).getD 0

def dateOf (year month day : Nat) : Except ValueFault Date :=
  if year = 0 then .error (.year year)
  else if month < 1 ∨ 12 < month then .error .month
  else if day < 1 ∨ Date.monthLength year month < day then .error .day
  else .ok ⟨year, month, day⟩

def momentOf (date : Date) (hour minute second microsecond : Nat) (offset : Option Int) :
    Except ValueFault Moment :=
  if 23 < hour then .error .hour
  else if 59 < minute then .error .minute
  else if 59 < second then .error .second
  else .ok ⟨date, hour, minute, second, microsecond, offset⟩

/-- The printed form of a span of minutes: days and the seconds beyond them. -/
def spanText (minutes : Int) : String :=
  let days := Int.fdiv minutes 1440
  let seconds := Int.fmod minutes 1440 * 60
  let parts :=
    (if days = 0 then [] else [s!"days={days}"])
      ++ (if seconds = 0 then [] else [s!"seconds={seconds}"])
  "datetime.timedelta(" ++ (if parts.isEmpty then "0" else ", ".intercalate parts) ++ ")"

/-- A distance from universal time is less than a day. -/
def offsetOf (minutes : Int) : Except ValueFault Int :=
  if minutes.natAbs < 1440 then .ok minutes else .error (.offset (spanText minutes))

/-- The first six digits of a fraction of a second, as microseconds. -/
def microseconds (fraction : List Char) : Nat :=
  decimal ((fraction ++ List.replicate 6 '0').take 6)

/-- The distance that the parts of a timestamp tell. -/
def offsetOfParts (part : Nat → Option (List Char)) : Except ValueFault (Option Int) :=
  match part 9 with
  | some sign => do
    let minutes : Int := decimal ((part 10).getD []) * 60 + decimal ((part 11).getD [])
    return some (← offsetOf (if sign == ['-'] then -minutes else minutes))
  | none => .ok ((part 8).map fun _ => 0)

/-- The value of a timestamp. A text of another form has no parts to look at. -/
def readTimestamp (text : List Char) : Except Fault Value :=
  match timestampParts? text with
  | none => .error (.notMatched "groupdict")
  | some part =>
    let number (index : Nat) : Nat := decimal ((part index).getD [])
    let result : Except ValueFault Value :=
      match part 4 with
      | none => (dateOf (number 1) (number 2) (number 3)).map .date
      | some _ => do
        let offset ← offsetOfParts part
        let date ← dateOf (number 1) (number 2) (number 3)
        let moment ← momentOf date (number 4) (number 5) (number 6)
          (microseconds ((part 7).getD [])) offset
        return .moment moment
    result.mapError .value

end Conformance.Yaml
