import Grader.Decimal.Written
import Grader.Value.Basic
import Grader.Yaml.Resolve

/-!
Points in time as values. A date or time that does not exist is refused; a time with an offset is
shown with it.
-/

namespace Grader.Yaml

/-- Whether a year has 366 days. -/
def isLeap (year : Nat) : Bool := year % 4 = 0 && (year % 100 ≠ 0 || year % 400 = 0)

def daysIn (year month : Nat) : Nat :=
  if month = 2 then (if isLeap year then 29 else 28)
  else if [4, 6, 9, 11].contains month then 30 else 31

def zeros (width n : Nat) : String := String.ofList (Decimal.padded width n)

namespace Resolved

def dateFault (m : MomentParts) : Option String :=
  if m.year = 0 then some "year 0 is out of range"
  else if m.month = 0 || 12 < m.month then some "month must be in 1..12"
  else if m.day = 0 || daysIn m.year m.month < m.day then some "day is out of range for month"
  else none

/-- Why a time of day does not exist. -/
def timeFault (hour minute second : Nat) : Option String :=
  if 23 < hour then some "hour must be in 0..23"
  else if 59 < minute then some "minute must be in 0..59"
  else if 59 < second then some "second must be in 0..59"
  else none

/-- The millionths of a second that the digits of a fraction are. -/
def micros (fraction : List Char) : Nat :=
  let ds := fraction.take 6
  Decimal.digitsValue (ds ++ List.replicate (6 - ds.length) '0')

def offsetText (minutes : Int) : String :=
  (if minutes < 0 then "-" else "+") ++ zeros 2 (minutes.natAbs / 60) ++ ":" ++
    zeros 2 (minutes.natAbs % 60)

/-- An offset in the quoted form of a time. -/
def offsetQuoted (minutes : Int) : String :=
  if minutes = 0 then "datetime.timezone.utc"
  else if 0 < minutes then
    s!"datetime.timezone(datetime.timedelta(seconds={60 * minutes}))"
  else s!"datetime.timezone(datetime.timedelta(days=-1, seconds={86400 + 60 * minutes}))"

def momentValue (m : MomentParts) : Except Failure Value :=
  match dateFault m with
  | some fault => .error (.value fault)
  | none =>
    let date := zeros 4 m.year ++ "-" ++ zeros 2 m.month ++ "-" ++ zeros 2 m.day
    let dateFields := s!"{m.year}, {m.month}, {m.day}"
    match m.time with
    | none => .ok (.moment "date" date ("datetime.date(" ++ dateFields ++ ")"))
    | some (hour, minute, second) =>
      match timeFault hour minute second with
      | some fault => .error (.value fault)
      | none =>
        let millionths := micros m.fraction
        let time := zeros 2 hour ++ ":" ++ zeros 2 minute ++ ":" ++ zeros 2 second
        let fraction := if millionths = 0 then "" else "." ++ zeros 6 millionths
        let fields := s!"{dateFields}, {hour}, {minute}" ++
          (if second = 0 && millionths = 0 then "" else s!", {second}") ++
          (if millionths = 0 then "" else s!", {millionths}")
        .ok (.moment "datetime"
          (date ++ " " ++ time ++ fraction ++ (m.offset.map offsetText).getD "")
          ("datetime.datetime(" ++ fields ++
            (m.offset.map fun o => ", tzinfo=" ++ offsetQuoted o).getD "" ++ ")"))

end Resolved

end Grader.Yaml
