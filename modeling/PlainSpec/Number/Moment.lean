import PlainSpec.Number.CalendarDate

/-!
# Moments

A moment is a date and a time of day, to the microsecond, and may say how far its clock is from universal
time.
-/

namespace PlainSpec

/-- A **moment**: a date, a time of day, and the minutes by which its clock is ahead of universal time. -/
structure Moment where
  date : CalendarDate
  hour : Nat
  minute : Nat
  second : Nat
  microsecond : Nat
  offset : Option Int
  deriving DecidableEq, Repr

namespace Moment

/-- An offset in **hours and minutes**, behind its sign. -/
def offsetText (minutes : Int) : Text :=
  (if minutes < 0 then ['-'] else ['+']) ++ CalendarDate.paddedNumber 2 (minutes.natAbs / 60) ++ ":" ++
    CalendarDate.paddedNumber 2 (minutes.natAbs % 60)

/-- Write a moment as its **date and time**. -/
def toText (m : Moment) : Text :=
  m.date.toText ++ " " ++ CalendarDate.paddedNumber 2 m.hour ++ ":" ++
    CalendarDate.paddedNumber 2 m.minute ++ ":" ++ CalendarDate.paddedNumber 2 m.second ++
    (if m.microsecond = 0 then [] else '.' :: CalendarDate.paddedNumber 6 m.microsecond) ++
    (m.offset.elim [] offsetText)

/-- A span of minutes by its **days and seconds**; the seconds are never negative. -/
def spanText (minutes : Int) : Text :=
  let days := minutes.fdiv 1440
  let seconds := minutes.fmod 1440 * 60
  let parts : List Text := (if days = 0 then [] else ["days=" ++ Text.ofInt days]) ++
    if seconds = 0 then [] else ["seconds=" ++ Text.ofInt seconds]
  "datetime.timedelta(" ++ (if parts.isEmpty then ['0'] else Text.join ", " parts) ++ ")"

/-- A moment **spelled out** by its numbers; seconds are left out where nothing counts that follows the
minutes. -/
def inner (m : Moment) : Text :=
  let small := if m.microsecond = 0 then if m.second = 0 then [] else [m.second]
    else [m.second, m.microsecond]
  let numbers := [m.date.year, m.date.month, m.date.day, m.hour, m.minute] ++ small
  let zone (minutes : Int) : Text :=
    "tzinfo=datetime.timezone" ++ if minutes = 0 then ".utc".toList else '(' :: spanText minutes ++ [')']
  "datetime.datetime(" ++ Text.join ", " (numbers.map Text.ofNat ++ (m.offset.map zone).toList) ++ ")"

end Moment

/-- A date **spelled out** by its numbers. -/
def CalendarDate.inner (d : CalendarDate) : Text :=
  "datetime.date(" ++ Text.join ", " ([d.year, d.month, d.day].map Text.ofNat) ++ ")"

end PlainSpec
