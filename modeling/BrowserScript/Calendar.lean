/-
BrowserScript.Calendar — dates and times of day.

* `Date.make` is a day of the calendar, when there is one with these numbers.
* `Moment` is a time of a day, with its distance from universal time or without one.
* `CalendarFault` tells which number of a day or moment is out of range.
* `text` is the usual form of both, `quoted` the one that messages show.
* `Moment.instant` is what moments with a distance have in common when they are the same.
* `Moment.stamp` is a moment in digits only, as names of runs have it.
-/
import BrowserScript.Number.Decimal
import BrowserScript.Text.Search

namespace BrowserScript

open Number

/-- A number with zeros before it, up to a number of digits. -/
def padded (digits n : Nat) : String :=
  let ds := digitsOf n
  String.ofList (List.replicate (digits - ds.length) '0' ++ ds)

/-- Numbers with commas between them. -/
def listed (ns : List Nat) : String := Text.joined ", " (ns.map (fun n => intText (Int.ofNat n)))

/-- A number that is out of range. -/
inductive CalendarFault where
  | year (n : Nat)
  | month
  | day
  | hour
  | minute
  | second
  | zone (minutes : Int)
  deriving Repr, DecidableEq

/-- A distance in minutes as messages show it: days, and the seconds of a day that are left. -/
def distanceQuoted (minutes : Int) : String :=
  let days := minutes.fdiv 1440
  let seconds := 60 * minutes.fmod 1440
  let parts :=
    (if days == 0 then [] else ["days=" ++ intText days]) ++
      (if seconds == 0 then [] else ["seconds=" ++ intText seconds])
  "datetime.timedelta(" ++ (if parts.isEmpty then "0" else Text.joined ", " parts) ++ ")"

/-- The wording of a fault. -/
def CalendarFault.message : CalendarFault → String
  | .year n => "year " ++ intText (Int.ofNat n) ++ " is out of range"
  | .month => "month must be in 1..12"
  | .day => "day is out of range for month"
  | .hour => "hour must be in 0..23"
  | .minute => "minute must be in 0..59"
  | .second => "second must be in 0..59"
  | .zone minutes =>
    "offset must be a timedelta strictly between -timedelta(hours=24) and timedelta(hours=24), not " ++
      distanceQuoted minutes ++ "."

/-! ## Days -/

/-- A day. -/
structure Date where
  year : Nat
  month : Nat
  day : Nat
  deriving Repr, DecidableEq, Inhabited

/-- Whether a year has a day more. -/
def isLeap (year : Nat) : Bool := year % 4 == 0 && (year % 100 != 0 || year % 400 == 0)

/-- The number of days in a month. -/
def daysIn (year month : Nat) : Nat :=
  if month == 2 then if isLeap year then 29 else 28
  else if [4, 6, 9, 11].contains month then 30 else 31

namespace Date

/-- The day with these numbers. -/
def make (year month day : Nat) : Except CalendarFault Date :=
  if year == 0 then .error (.year year)
  else if month == 0 || 12 < month then .error .month
  else if day == 0 || daysIn year month < day then .error .day
  else .ok ⟨year, month, day⟩

/-- A day with hyphens between its numbers. -/
def text (d : Date) : String := padded 4 d.year ++ "-" ++ padded 2 d.month ++ "-" ++ padded 2 d.day

/-- The numbers of a day. -/
def numbers (d : Date) : List Nat := [d.year, d.month, d.day]

/-- A day as messages show it. -/
def quoted (d : Date) : String := "datetime.date(" ++ listed d.numbers ++ ")"

/-- The number of days from the beginning of the first year. -/
def dayNumber (d : Date) : Nat :=
  let y := d.year - 1
  let months := (List.range (d.month - 1)).foldl (fun n m => n + daysIn d.year (m + 1)) 0
  365 * y + y / 4 - y / 100 + y / 400 + months + d.day

end Date

/-! ## Times of days -/

/-- A time of a day to the millionth of a second, and its distance from universal time in minutes. -/
structure Moment where
  date : Date
  hour : Nat
  minute : Nat
  second : Nat
  micro : Nat := 0
  zone : Option Int := none
  deriving Repr, DecidableEq, Inhabited

/-- The distance from universal time as written after a time. -/
def zoneText (minutes : Int) : String :=
  (if minutes < 0 then "-" else "+") ++ padded 2 (minutes.natAbs / 60) ++ ":" ++
    padded 2 (minutes.natAbs % 60)

/-- The distance from universal time as messages show it. -/
def zoneQuoted (minutes : Int) : String :=
  if minutes == 0 then "datetime.timezone.utc"
  else "datetime.timezone(" ++ distanceQuoted minutes ++ ")"

namespace Moment

/-- A distance from universal time: less than a day. -/
def checkZone (zone : Option Int) : Except CalendarFault Unit :=
  match zone with
  | some minutes => if 1440 ≤ minutes.natAbs then .error (.zone minutes) else .ok ()
  | none => .ok ()

/-- The moment with these numbers. -/
def make (date : Date) (hour minute second micro : Nat) (zone : Option Int) :
    Except CalendarFault Moment := do
  checkZone zone
  if 23 < hour then .error .hour
  else if 59 < minute then .error .minute
  else if 59 < second then .error .second
  else .ok ⟨date, hour, minute, second, micro, zone⟩

/-- A moment, `mark` standing between the day and the time. -/
def textWith (mark : String) (m : Moment) : String :=
  m.date.text ++ mark ++ padded 2 m.hour ++ ":" ++ padded 2 m.minute ++ ":" ++ padded 2 m.second ++
    (if m.micro == 0 then "" else "." ++ padded 6 m.micro) ++ (m.zone.map zoneText).getD ""

/-- A moment with a blank between the day and the time. -/
def text (m : Moment) : String := m.textWith " "

/-- A moment with a letter between the day and the time. -/
def iso (m : Moment) : String := m.textWith "T"

/-- A moment as digits only, the day and the time apart. -/
def stamp (m : Moment) : String :=
  padded 4 m.date.year ++ padded 2 m.date.month ++ padded 2 m.date.day ++ "-" ++
    padded 2 m.hour ++ padded 2 m.minute ++ padded 2 m.second

/-- A moment as messages show it. -/
def quoted (m : Moment) : String :=
  let shown := m.date.numbers ++ [m.hour, m.minute] ++
    (if m.micro != 0 then [m.second, m.micro] else if m.second != 0 then [m.second] else [])
  "datetime.datetime(" ++ listed shown ++
    ((m.zone.map (fun z => ", tzinfo=" ++ zoneQuoted z)).getD "") ++ ")"

/-- The millionths of a second up to a moment, in universal time when its distance is known. -/
def instant (m : Moment) : Int :=
  let minutes : Int := (m.date.dayNumber * 24 + m.hour) * 60 + m.minute - m.zone.getD 0
  (minutes * 60 + m.second) * 1000000 + m.micro

/-- Whether two moments are the same: both have a distance from universal time or none has, and no time
lies between them. -/
def same (m n : Moment) : Bool := m.zone.isSome == n.zone.isSome && m.instant == n.instant

end Moment
end BrowserScript
