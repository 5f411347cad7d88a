import PlainSpec.Text.Basic

/-!
# Calendar dates

Dates are written with or without hyphens, by month and day or by week and weekday. Only ASCII digits
count.
-/

namespace PlainSpec

/-- A **date** of the Gregorian calendar. -/
structure CalendarDate where
  year : Nat
  month : Nat
  day : Nat
  deriving DecidableEq, Repr

/-- Why a text is not a date. -/
inductive DateFault
  | malformed
  | year (year : Nat)
  | month
  | day
  deriving DecidableEq, Repr

/-- What is said of a date that is **out of range**. -/
def DateFault.message : DateFault → Text
  | malformed => []
  | year y => "year " ++ Text.ofNat y ++ " is out of range"
  | month => "month must be in 1..12"
  | day => "day is out of range for month"

namespace CalendarDate

/-- Whether a year is a **leap year**. -/
def isLeap (year : Nat) : Bool := year % 4 == 0 && (year % 100 != 0 || year % 400 == 0)

/-- The number of **days in a month**. -/
def daysInMonth (year month : Nat) : Nat :=
  if month = 2 then if isLeap year then 29 else 28
  else if month = 4 || month = 6 || month = 9 || month = 11 then 30
  else 31

/-- The number of days **before a year**, counted from year one. -/
def daysBeforeYear (year : Nat) : Nat :=
  let y := year - 1
  y * 365 + y / 4 - y / 100 + y / 400

/-- The date that lies a number of days after the first of a month, moving on **month by month**. -/
def advance (year month days : Nat) : CalendarDate :=
  if h : days < daysInMonth year month then ⟨year, month, days + 1⟩
  else
    have : 0 < daysInMonth year month := by
      unfold daysInMonth
      split
      · split <;> omega
      · split <;> omega
    let rest := days - daysInMonth year month
    if month < 12 then advance year (month + 1) rest else advance (year + 1) 1 rest
termination_by days
decreasing_by all_goals omega

/-- The **weekday** on which a year begins, Monday being zero. -/
def firstWeekday (year : Nat) : Nat := daysBeforeYear year % 7

/-- The number of **weeks of a year**: a year that begins on a Thursday, or a leap year that begins on a
Wednesday, has one more. -/
def weeksInYear (year : Nat) : Nat :=
  if firstWeekday year = 3 || (firstWeekday year = 2 && isLeap year) then 53 else 52

/-- The date of a **weekday of a week**; the first week of a year is the one with its first Thursday. -/
def ofWeek (year week weekday : Nat) : CalendarDate :=
  let first := firstWeekday year
  let days := (week - 1) * 7 + weekday - 1
  if first ≤ 3 then
    if first ≤ days then advance year 1 (days - first)
    else ⟨year - 1, 12, 31 + days + 1 - first⟩
  else advance year 1 (days + 7 - first)

/-- Check a date given by year, month and day, **the year first**. -/
def check (date : CalendarDate) : Except DateFault CalendarDate :=
  if date.year < 1 || 9999 < date.year then .error (.year date.year)
  else if date.month < 1 || 12 < date.month then .error .month
  else if date.day < 1 || daysInMonth date.year date.month < date.day then .error .day
  else .ok date

/-- Read a number of exactly so many ASCII digits. -/
def readFixed? : Nat → Nat → Text → Option (Nat × Text)
  | 0, n, t => some (n, t)
  | _ + 1, _, [] => none
  | k + 1, n, c :: rest =>
    if c.isDigit then readFixed? k (10 * n + (c.toNat - 48)) rest else none

/-- A hyphen, if hyphens are in use. -/
def skipHyphen? (inUse : Bool) : Text → Option Text
  | '-' :: rest => some (if inUse then rest else '-' :: rest)
  | t => if inUse then none else some t

/-- Read the **week and weekday** of a year; without a weekday the week begins. A year before the first
has no weeks that lie in a month. -/
def readWeek (hyphens : Bool) (year : Nat) (t : Text) : Except DateFault CalendarDate :=
  match readFixed? 2 0 t with
  | none => .error .malformed
  | some (week, rest) =>
    let weekday? :=
      if rest.isEmpty then some 1
      else (skipHyphen? hyphens rest).bind fun rest => (readFixed? 1 0 rest).map Prod.fst
    match weekday? with
    | none => .error .malformed
    | some weekday =>
      if week < 1 || weekday < 1 || 7 < weekday then .error .malformed
      else if year = 0 then if week ≤ 52 then .error .month else .error .malformed
      else if weeksInYear year < week then .error .malformed
      else check (ofWeek year week weekday)

/-- Read the **month and day** of a year; what follows the day is not looked at. -/
def readMonth (hyphens : Bool) (year : Nat) (t : Text) : Except DateFault CalendarDate :=
  let parts := do
    let (month, rest) ← readFixed? 2 0 t
    let rest ← skipHyphen? hyphens rest
    let (day, _) ← readFixed? 2 0 rest
    return CalendarDate.mk year month day
  match parts with
  | none => .error .malformed
  | some date => check date

/-- The number of bytes of a text. -/
def byteLength (t : Text) : Nat := t.foldl (fun size c => size + c.utf8Size) 0

/-- Read a **date** of seven, eight or ten bytes. -/
def read (t : Text) : Except DateFault CalendarDate :=
  let size := byteLength t
  if size ≠ 7 && size ≠ 8 && size ≠ 10 then .error .malformed
  else match readFixed? 4 0 t with
    | none => .error .malformed
    | some (year, '-' :: 'W' :: rest) => readWeek true year rest
    | some (year, '-' :: rest) => readMonth true year rest
    | some (year, 'W' :: rest) => readWeek false year rest
    | some (year, rest) => readMonth false year rest

/-- A number in at least `width` decimal digits. -/
def paddedNumber (width n : Nat) : Text :=
  let digits := Text.ofNat n
  List.replicate (width - digits.length) '0' ++ digits

/-- Write a date as **year, month and day** between hyphens. -/
def toText (date : CalendarDate) : Text :=
  paddedNumber 4 date.year ++ "-" ++ paddedNumber 2 date.month ++ "-" ++ paddedNumber 2 date.day

end CalendarDate

end PlainSpec
