/-!
# The calendar

Days are counted from the first of January 1970, and named in the Gregorian
calendar extended to all years.  A clock reading is a day, a second of it, and
the offset from universal time at which it is read.
-/

namespace Reshape
namespace Time

structure Date where
  year : Int
  month : Nat
  day : Nat
  deriving DecidableEq

/-!
## Days and dates

Counting months from March puts the leap day at the end of the year.  `era`
counts cycles of 400 years.
-/

def Date.ofDays (days : Int) : Date :=
  let shifted := days + 719468
  let era := shifted / 146097
  let dayOfEra := shifted % 146097
  let yearOfEra :=
    (dayOfEra - dayOfEra / 1460 + dayOfEra / 36524 - dayOfEra / 146096) / 365
  let dayOfYear :=
    dayOfEra - (365 * yearOfEra + yearOfEra / 4 - yearOfEra / 100)
  let month := (5 * dayOfYear + 2) / 153
  let day := dayOfYear - (153 * month + 2) / 5 + 1
  let year := yearOfEra + era * 400
  if month < 10 then ⟨year, (month + 3).toNat, day.toNat⟩
  else ⟨year + 1, (month - 9).toNat, day.toNat⟩

def isLeapYear (year : Int) : Bool :=
  year % 4 = 0 && (year % 100 ≠ 0 || year % 400 = 0)

/-- The number of days before each month of a year without a leap day. -/
def daysBeforeMonth : List Nat :=
  [0, 31, 59, 90, 120, 151, 181, 212, 243, 273, 304, 334]

def Date.dayOfYear (date : Date) : Nat :=
  daysBeforeMonth.getD (date.month - 1) 0 + date.day +
    if 2 < date.month && isLeapYear date.year then 1 else 0

def Date.quarter (date : Date) : Nat :=
  (date.month - 1) / 3 + 1

def weekday (days : Int) : Nat :=
  ((days + 3) % 7).toNat

/-!
## Weeks
-/

/-- The number of the week in its year, when weeks begin `daysSince` days ago;
the days before the first such week are in week zero. -/
def weekOfYear (dayOfYear daysSince : Nat) : Nat :=
  (dayOfYear + 6 - daysSince) / 7

def firstWeekday (dayOfYear weekday : Nat) : Nat :=
  (weekday + 7 * 53 - (dayOfYear - 1)) % 7

/-- Whether a year with the given first weekday has 53 weeks. -/
def isLongYear (year : Int) (first : Nat) : Bool :=
  first = 3 || first = 2 && isLeapYear year

structure IsoWeek where
  year : Int
  week : Nat
  deriving DecidableEq

/-- The week to which the Thursday nearest to the day belongs. -/
def Date.isoWeek (date : Date) (weekday : Nat) : IsoWeek :=
  let week := (date.dayOfYear + 9 - weekday) / 7
  let first := firstWeekday date.dayOfYear weekday
  if week = 0 then
    let before := (first + 6 - if isLeapYear (date.year - 1) then 1 else 0) % 7
    ⟨date.year - 1, if isLongYear (date.year - 1) before then 53 else 52⟩
  else if week = 53 && !isLongYear date.year first then ⟨date.year + 1, 1⟩
  else ⟨date.year, week⟩

/-!
## Clock readings
-/

inductive Zone where
  | universal
  /-- A local time some seconds ahead of universal time. -/
  | offset (seconds : Int)
  deriving DecidableEq

def Zone.seconds : Zone -> Int
  | .universal => 0
  | .offset seconds => seconds

structure Reading where
  /-- Seconds since the first of January 1970 in universal time. -/
  seconds : Int
  zone : Zone
  deriving DecidableEq

namespace Reading

def localSeconds (r : Reading) : Int :=
  r.seconds + r.zone.seconds

def days (r : Reading) : Int :=
  r.localSeconds / 86400

def secondOfDay (r : Reading) : Nat :=
  (r.localSeconds % 86400).toNat

def date (r : Reading) : Date :=
  Date.ofDays r.days

def weekday (r : Reading) : Nat :=
  Time.weekday r.days

def isoWeek (r : Reading) : IsoWeek :=
  r.date.isoWeek r.weekday

def hour (r : Reading) : Nat :=
  r.secondOfDay / 3600

def minute (r : Reading) : Nat :=
  r.secondOfDay / 60 % 60

def second (r : Reading) : Nat :=
  r.secondOfDay % 60

/-- The hour on a dial of twelve. -/
def hour12 (r : Reading) : Nat :=
  if r.hour % 12 = 0 then 12 else r.hour % 12

end Reading

/-!
## The bounds of the calendar
-/

/-- Whether the date of some seconds is in one of the years that have dates,
from 262144 B.C. to 262142. -/
def isDated (seconds : Int) : Bool :=
  let year := (Date.ofDays (seconds / 86400)).year
  (-262143 ≤ year) && year ≤ 262142

/-- Whether the local date is in the calendar.  At its ends a date may be there
in universal time and be gone in local time. -/
def Reading.isDated (r : Reading) : Bool :=
  Time.isDated r.localSeconds

/-- A local date beyond the calendar. -/
structure Overflow where
  deriving DecidableEq

def Overflow.message (_ : Overflow) : String :=
  "Local time out of range for `NaiveDateTime`"

end Time
end Reshape
