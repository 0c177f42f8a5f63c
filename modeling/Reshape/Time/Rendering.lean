import Reshape.Json.Printer
import Reshape.Time.Calendar
import Reshape.Time.Pattern

/-!
# Writing a time

Each item of a pattern writes one part of a clock reading.  Times have whole
seconds, so every fraction is zero.
-/

namespace Reshape
namespace Time

/-!
## Numbers
-/

/-- Digits filled up on the left. -/
def fill (c : Char) (width : Nat) (cs : List Char) : List Char :=
  List.replicate (width - cs.length) c ++ cs

/-- A number below 256 in two places; the tens of a larger one run on past the
digit nine. -/
def twoPlaces (padding : Padding) (n : Nat) : List Char :=
  let ones := Char.ofNat ('0'.toNat + n % 10)
  let tens := Char.ofNat ('0'.toNat + n / 10)
  if n / 10 = 0 then
    match padding with
    | .none => [ones]
    | .spaces => [' ', ones]
    | .zeros => ['0', ones]
  else [tens, ones]

/-- The text of a sign, and digits filled up to a width that counts the sign. -/
def signedPlaces (padding : Padding) (width : Nat) (sign digits : List Char) :
    List Char :=
  match padding with
  | .none => sign ++ digits
  | .spaces => fill ' ' width (sign ++ digits)
  | .zeros => sign ++ fill '0' (width - sign.length) digits

def minusSign (n : Int) : List Char :=
  if n < 0 then ['-'] else []

/-- A number with a minus sign if it has one. -/
def places (padding : Padding) (width : Nat) (n : Int) : List Char :=
  signedPlaces padding width (minusSign n) (Nat.toDigits 10 n.natAbs)

/-- A year has four digits at least; one that does not fit them has a sign as
well. -/
def yearPlaces (padding : Padding) (year : Int) : List Char :=
  if 0 ≤ year ∧ year ≤ 9999 then places padding 4 year
  else
    signedPlaces padding 5 [if year < 0 then '-' else '+']
      (Nat.toDigits 10 year.natAbs)

def centuryByte (year : Int) : Nat :=
  ((year / 100) % 256).toNat

def writeNumber (r : Reading) (padding : Padding) : Numeric -> List Char
  | .year => yearPlaces padding r.date.year
  | .century => twoPlaces padding (centuryByte r.date.year)
  | .yearOfCentury => twoPlaces padding (r.date.year % 100).toNat
  | .isoYear => yearPlaces padding r.isoWeek.year
  | .isoYearOfCentury => twoPlaces padding (r.isoWeek.year % 100).toNat
  | .quarter => Nat.toDigits 10 r.date.quarter
  | .month => twoPlaces padding r.date.month
  | .day => twoPlaces padding r.date.day
  | .weekFromSunday =>
      twoPlaces padding (weekOfYear r.date.dayOfYear ((r.weekday + 1) % 7))
  | .weekFromMonday => twoPlaces padding (weekOfYear r.date.dayOfYear r.weekday)
  | .isoWeek => twoPlaces padding r.isoWeek.week
  | .weekdayFromSunday => Nat.toDigits 10 ((r.weekday + 1) % 7)
  | .weekdayFromMonday => Nat.toDigits 10 (r.weekday + 1)
  | .dayOfYear => places padding 3 r.date.dayOfYear
  | .hour => twoPlaces padding r.hour
  | .hour12 => twoPlaces padding r.hour12
  | .minute => twoPlaces padding r.minute
  | .second => twoPlaces padding r.second
  | .nanosecond => places padding 9 0
  | .timestamp => places padding 9 r.seconds

/-!
## Names
-/

def monthNames : List String :=
  ["January", "February", "March", "April", "May", "June", "July", "August",
    "September", "October", "November", "December"]

def weekdayNames : List String :=
  ["Monday", "Tuesday", "Wednesday", "Thursday", "Friday", "Saturday", "Sunday"]

def monthName (r : Reading) : List Char :=
  (monthNames.getD (r.date.month - 1) "").toList

def weekdayName (r : Reading) : List Char :=
  (weekdayNames.getD r.weekday "").toList

def writeName (r : Reading) : Name -> List Char
  | .shortMonth => (monthName r).take 3
  | .longMonth => monthName r
  | .shortWeekday => (weekdayName r).take 3
  | .longWeekday => weekdayName r
  | .upperHalf => if r.hour < 12 then ['A', 'M'] else ['P', 'M']
  | .lowerHalf => if r.hour < 12 then ['a', 'm'] else ['p', 'm']

/-!
## Offsets
-/

def offsetSign (seconds : Int) : Char :=
  if seconds < 0 then '-' else '+'

/-- The distance from universal time in whole minutes, to the nearest of which
it is rounded. -/
def offsetMinutes (seconds : Int) : Nat :=
  (seconds.natAbs + 30) / 60

/-- Hours, minutes and seconds with colons between them. -/
def writeDistance (seconds : Nat) : List Char :=
  twoPlaces .zeros (seconds / 3600) ++ ':' ::
    twoPlaces .zeros (seconds / 60 % 60) ++ ':' ::
      twoPlaces .zeros (seconds % 60)

def writeOffset (style : OffsetStyle) (seconds : Int) : List Char :=
  let hours := twoPlaces .zeros (offsetMinutes seconds / 60)
  let minutes := twoPlaces .zeros (offsetMinutes seconds % 60)
  offsetSign seconds ::
    match style with
    | .plain => hours ++ minutes
    | .colon => hours ++ ':' :: minutes
    | .seconds => writeDistance seconds.natAbs
    | .hours => twoPlaces .zeros (seconds.natAbs / 3600)

/-- The name of the zone.  A local zone is known by its offset alone, which is
written with seconds if it has some. -/
def writeZone : Zone -> List Char
  | .universal => ['U', 'T', 'C']
  | .offset seconds =>
      if seconds % 60 = 0 then writeOffset .colon seconds
      else writeOffset .seconds seconds

/-!
## The Internet format
-/

def writeDateTime (r : Reading) : List Char :=
  let clock :=
    twoPlaces .zeros r.hour ++ ':' :: twoPlaces .zeros r.minute ++ ':' ::
    twoPlaces .zeros r.second
  yearPlaces .zeros r.date.year ++ '-' ::
    twoPlaces .zeros r.date.month ++ '-' ::
    twoPlaces .zeros r.date.day ++ 'T' :: clock

/-- The offset, with `Z` for universal time. -/
def writeIsoZone : Zone -> List Char
  | .universal => ['Z']
  | .offset seconds => writeOffset .colon seconds

/-- The whole reading.  Its local date has to be in the calendar. -/
def writeIso8601 (r : Reading) : Except Overflow (List Char) :=
  if r.isDated then .ok (writeDateTime r ++ writeIsoZone r.zone) else .error ⟨⟩

/-!
## Items
-/

/-- The text of an item; `none` if the item cannot be written. -/
def writeItem (r : Reading) : Item -> Option (List Char)
  | .literal c => some [c]
  | .number n padding => some (writeNumber r padding n)
  | .name n => some (writeName r n)
  | .fraction pointed digits =>
      some (if pointed && digits ≠ 0 then '.' :: List.replicate digits '0'
        else List.replicate digits '0')
  | .zoneName => some (writeZone r.zone)
  | .offset style => some (writeOffset style r.zone.seconds)
  | .anyOffset => none
  | .internet => some (writeDateTime r ++ writeOffset .colon r.zone.seconds)

/-- The texts of all items in a row, if each of them can be written. -/
def writeItems? (r : Reading) (items : List Item) : Option (List Char) :=
  (items.mapM (writeItem r)).map List.flatten

end Time
end Reshape
