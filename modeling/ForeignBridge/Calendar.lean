/-!
Moments and spans of time, to the microsecond. A moment is a date and a time of day in the Gregorian
calendar from year 1 to year 9999, with an offset from UTC or without one; a span is a signed number
of microseconds. Days are counted from 1970-01-01.
-/

namespace ForeignBridge

namespace Calendar

/-- The day number of a date. Years begin in March, so that the leap day is the last of its year. -/
def dayOfDate (year month day : Int) : Int :=
  let y := if month ≤ 2 then year - 1 else year
  let era := y.fdiv 400
  let yearOfEra := y - era * 400
  let monthFromMarch := (month + 9).fmod 12
  let dayOfYear := (153 * monthFromMarch + 2).fdiv 5 + day - 1
  let dayOfEra := yearOfEra * 365 + yearOfEra.fdiv 4 - yearOfEra.fdiv 100 + dayOfYear
  era * 146097 + dayOfEra - 719468

/-- The date of a day number: year, month and day. -/
def dateOfDay (n : Int) : Int × Int × Int :=
  let z := n + 719468
  let era := z.fdiv 146097
  let dayOfEra := z - era * 146097
  let yearOfEra :=
    (dayOfEra - dayOfEra.fdiv 1460 + dayOfEra.fdiv 36524 - dayOfEra.fdiv 146096).fdiv 365
  let dayOfYear := dayOfEra - (365 * yearOfEra + yearOfEra.fdiv 4 - yearOfEra.fdiv 100)
  let monthFromMarch := (5 * dayOfYear + 2).fdiv 153
  let day := dayOfYear - (153 * monthFromMarch + 2).fdiv 5 + 1
  let month := if monthFromMarch < 10 then monthFromMarch + 3 else monthFromMarch - 9
  (yearOfEra + era * 400 + (if month ≤ 2 then 1 else 0), month, day)

def secondsPerDay : Int := 86400

def microsPerSecond : Int := 1000000

def microsPerDay : Int := secondsPerDay * microsPerSecond

/-- The day before the first of year 1, as days are counted from it in some places. -/
def dayBefore : Int := dayOfDate 1 1 1 - 1

/-- The first instant of year 1 and the last of year 9999, in microseconds from the epoch. -/
def firstInstant : Int := dayOfDate 1 1 1 * microsPerDay

def lastInstant : Int := dayOfDate 10000 1 1 * microsPerDay - 1

end Calendar

structure Date where
  year : Int
  month : Int
  day : Int
deriving DecidableEq, Repr, Inhabited

structure Span where
  micros : Int
deriving DecidableEq, Repr, Inhabited

namespace Span

open Calendar

def ofParts (days seconds micros : Int) : Span :=
  ⟨(days * secondsPerDay + seconds) * microsPerSecond + micros⟩

def days (s : Span) : Int := s.micros.fdiv microsPerDay

def seconds (s : Span) : Int := (s.micros - s.days * microsPerDay).fdiv microsPerSecond

def microseconds (s : Span) : Int := s.micros.fmod microsPerSecond

def wholeSeconds (s : Span) : Int := s.micros.fdiv microsPerSecond

/-- The most days that a span may have, of either sign. -/
def maxDays : Int := 999999999

def InRange (s : Span) : Prop := -maxDays ≤ s.days ∧ s.days ≤ maxDays

instance (s : Span) : Decidable s.InRange := inferInstanceAs (Decidable (_ ∧ _))

end Span

/-- A date and time of day; `offset` is in seconds east of UTC, and a moment without one is naive. -/
structure Moment where
  year : Int
  month : Int
  day : Int
  hour : Int
  minute : Int
  second : Int
  microsecond : Int
  offset : Option Int
deriving DecidableEq, Repr, Inhabited

namespace Moment

open Calendar

/-- Microseconds from the epoch, read as UTC, whatever the offset. -/
def wallMicros (t : Moment) : Int :=
  let day := dayOfDate t.year t.month t.day
  ((day * 24 + t.hour) * 60 + t.minute) * 60 * microsPerSecond + t.second * microsPerSecond
    + t.microsecond

/-- The instant of a moment that has an offset. -/
def instant? (t : Moment) : Option Int :=
  t.offset.map fun o => t.wallMicros - o * microsPerSecond

/-- The moment in UTC of an instant inside the calendar. -/
def ofInstant? (micros : Int) : Option Moment :=
  if firstInstant ≤ micros ∧ micros ≤ lastInstant then
    let day := micros.fdiv microsPerDay
    let rest := micros.fmod microsPerDay
    let (y, m, d) := dateOfDay day
    let seconds := rest.fdiv microsPerSecond
    some { year := y, month := m, day := d, hour := seconds.fdiv 3600,
           minute := (seconds.fdiv 60).fmod 60, second := seconds.fmod 60,
           microsecond := rest.fmod microsPerSecond, offset := some 0 }
  else none

end Moment

def paddedNat (width n : Nat) : String :=
  let digits := toString n
  String.ofList (List.replicate (width - digits.length) '0') ++ digits

def padded (width : Nat) (i : Int) : String := paddedNat width i.toNat

namespace Span

/-- Hours, minutes and seconds, after the days if there are any. -/
def text (s : Span) : String :=
  let days := s.days
  let front :=
    if days = 0 then "" else s!"{days} day" ++ (if days.natAbs = 1 then "" else "s") ++ ", "
  let seconds := s.seconds
  let clock := s!"{seconds.fdiv 3600}:" ++ padded 2 ((seconds.fdiv 60).fmod 60) ++ ":"
    ++ padded 2 (seconds.fmod 60)
  let micros := s.microseconds
  front ++ clock ++ (if micros = 0 then "" else "." ++ padded 6 micros)

def quoted (s : Span) : String :=
  let part (name : String) (n : Int) : List String := if n = 0 then [] else [name ++ "=" ++ toString n]
  let parts :=
    part "days" s.days ++ part "seconds" s.seconds ++ part "microseconds" s.microseconds
  "datetime.timedelta(" ++ (if parts.isEmpty then "0" else ", ".intercalate parts) ++ ")"

end Span

namespace Moment

/-- An offset as signed hours and minutes, with seconds if it has any. -/
def offsetText (o : Int) : String :=
  let a : Int := o.natAbs
  (if o < 0 then "-" else "+") ++ padded 2 (a.fdiv 3600) ++ ":" ++ padded 2 ((a.fdiv 60).fmod 60)
    ++ (if a.fmod 60 = 0 then "" else ":" ++ padded 2 (a.fmod 60))

def textWith (separator : String) (t : Moment) : String :=
  padded 4 t.year ++ "-" ++ padded 2 t.month ++ "-" ++ padded 2 t.day ++ separator
    ++ padded 2 t.hour ++ ":" ++ padded 2 t.minute ++ ":" ++ padded 2 t.second
    ++ (if t.microsecond = 0 then "" else "." ++ padded 6 t.microsecond)
    ++ (match t.offset with | none => "" | some o => offsetText o)

def text (t : Moment) : String := t.textWith " "

def quoted (t : Moment) : String :=
  let small :=
    if t.microsecond ≠ 0 then [t.second, t.microsecond]
    else if t.second ≠ 0 then [t.second] else []
  let numbers := [t.year, t.month, t.day, t.hour, t.minute] ++ small
  let zone :=
    match t.offset with
    | none => []
    | some 0 => ["tzinfo=datetime.timezone.utc"]
    | some o => ["tzinfo=datetime.timezone(" ++ (Span.ofParts 0 o 0).quoted ++ ")"]
  "datetime.datetime(" ++ ", ".intercalate (numbers.map toString ++ zone) ++ ")"

end Moment

/-- What keeps numbers from being a date, a time or an offset. -/
inductive CalendarFault
  | year (year : Int)
  | month
  | day
  | hour
  | minute
  | second
  | microsecond
  | offset (s : Span)
deriving DecidableEq, Repr

namespace CalendarFault

def text : CalendarFault → String
  | year y => s!"year {y} is out of range"
  | month => "month must be in 1..12"
  | day => "day is out of range for month"
  | hour => "hour must be in 0..23"
  | minute => "minute must be in 0..59"
  | second => "second must be in 0..59"
  | microsecond => "microsecond must be in 0..999999"
  | offset s =>
    "offset must be a timedelta strictly between -timedelta(hours=24) and timedelta(hours=24), not "
      ++ s.quoted

end CalendarFault

namespace Date

open Calendar

def quoted (d : Date) : String := s!"datetime.date({d.year}, {d.month}, {d.day})"

/-- The date with a year, a month and a day, if there is one. -/
def checked (year month day : Int) : Except CalendarFault Date :=
  let next := if month = 12 then dayOfDate (year + 1) 1 1 else dayOfDate year (month + 1) 1
  if year < 1 || 9999 < year then .error (.year year)
  else if month < 1 || 12 < month then .error .month
  else if day < 1 || next - dayOfDate year month 1 < day then .error .day
  else .ok ⟨year, month, day⟩

end Date

namespace Moment

open Calendar

/-- The moment with a date and a time of day, if there is one. -/
def checked (t : Moment) : Except CalendarFault Moment := do
  let _ ← Date.checked t.year t.month t.day
  if t.hour < 0 || 23 < t.hour then throw .hour
  if t.minute < 0 || 59 < t.minute then throw .minute
  if t.second < 0 || 59 < t.second then throw .second
  if t.microsecond < 0 || 999999 < t.microsecond then throw .microsecond
  return t

/-- The date and time in UTC of an instant, without an offset, or the year that it falls into if that has
more than four digits or is none. -/
def ofInstant (micros : Int) : Except Int Moment :=
  match ofInstant? micros with
  | some t => .ok { t with offset := none }
  | none => .error (Calendar.dateOfDay (micros.fdiv Calendar.microsPerDay)).1

end Moment

end ForeignBridge
