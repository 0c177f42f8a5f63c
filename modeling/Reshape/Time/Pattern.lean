/-!
# Time patterns

A pattern is text with directives, each a percent sign and a letter.  Reading a
pattern turns it into items; directives that stand for several items, such as
the date in one, are spelled out.
-/

namespace Reshape
namespace Time

inductive Padding where
  | none
  | spaces
  | zeros
  deriving DecidableEq

inductive Numeric where
  | year
  | century
  | yearOfCentury
  | isoYear
  | isoYearOfCentury
  | quarter
  | month
  | day
  | weekFromSunday
  | weekFromMonday
  | isoWeek
  | weekdayFromSunday
  | weekdayFromMonday
  | dayOfYear
  | hour
  | hour12
  | minute
  | second
  | nanosecond
  | timestamp
  deriving DecidableEq

inductive Name where
  | shortMonth
  | longMonth
  | shortWeekday
  | longWeekday
  | upperHalf
  | lowerHalf
  deriving DecidableEq

/-- How an offset from universal time is written. -/
inductive OffsetStyle where
  | plain
  | colon
  | seconds
  | hours
  deriving DecidableEq

inductive Item where
  | literal (c : Char)
  | number (n : Numeric) (padding : Padding)
  | name (n : Name)
  /-- The fraction of the second with a number of digits, after a point or
  without one.  Without digits it is written only when it is not zero. -/
  | fraction (pointed : Bool) (digits : Nat)
  | zoneName
  | offset (style : OffsetStyle)
  /-- An offset in any style.  It can be read but not written. -/
  | anyOffset
  | internet
  deriving DecidableEq

/-!
## Directives
-/

def zeros (n : Numeric) : Item := .number n .zeros

def spaces (n : Numeric) : Item := .number n .spaces

def bare (n : Numeric) : Item := .number n .none

def clock : List Item :=
  [zeros .hour, .literal ':', zeros .minute, .literal ':', zeros .second]

def monthDayYear : List Item :=
  [zeros .month, .literal '/', zeros .day, .literal '/', zeros .yearOfCentury]

def twelveHourClock : List Item :=
  [zeros .hour12, .literal ':', zeros .minute, .literal ':', zeros .second,
    .literal ' ', .name .upperHalf]

def dateAndClock : List Item :=
  [.name .shortWeekday, .literal ' ', .name .shortMonth, .literal ' ',
    spaces .day, .literal ' '] ++
    clock ++ [.literal ' ', zeros .year]

/-- The items of a directive of one letter. -/
def letter? : Char -> Option (List Item)
  | 'A' => some [.name .longWeekday]
  | 'B' => some [.name .longMonth]
  | 'C' => some [zeros .century]
  | 'D' => some monthDayYear
  | 'F' =>
      some [zeros .year, .literal '-', zeros .month, .literal '-', zeros .day]
  | 'G' => some [zeros .isoYear]
  | 'H' => some [zeros .hour]
  | 'I' => some [zeros .hour12]
  | 'M' => some [zeros .minute]
  | 'P' => some [.name .lowerHalf]
  | 'R' => some [zeros .hour, .literal ':', zeros .minute]
  | 'S' => some [zeros .second]
  | 'T' => some clock
  | 'U' => some [zeros .weekFromSunday]
  | 'V' => some [zeros .isoWeek]
  | 'W' => some [zeros .weekFromMonday]
  | 'X' => some clock
  | 'Y' => some [zeros .year]
  | 'Z' => some [.zoneName]
  | 'a' => some [.name .shortWeekday]
  | 'b' => some [.name .shortMonth]
  | 'c' => some dateAndClock
  | 'd' => some [zeros .day]
  | 'e' => some [spaces .day]
  | 'f' => some [zeros .nanosecond]
  | 'g' => some [zeros .isoYearOfCentury]
  | 'h' => some [.name .shortMonth]
  | 'j' => some [zeros .dayOfYear]
  | 'k' => some [spaces .hour]
  | 'l' => some [spaces .hour12]
  | 'm' => some [zeros .month]
  | 'n' => some [.literal '\n']
  | 'p' => some [.name .upperHalf]
  | 'q' => some [bare .quarter]
  | 'r' => some twelveHourClock
  | 's' => some [bare .timestamp]
  | 't' => some [.literal '\t']
  | 'u' => some [bare .weekdayFromMonday]
  | 'v' =>
      some [spaces .day, .literal '-', .name .shortMonth, .literal '-',
        zeros .year]
  | 'w' => some [bare .weekdayFromSunday]
  | 'x' => some monthDayYear
  | 'y' => some [zeros .yearOfCentury]
  | 'z' => some [.offset .plain]
  | '+' => some [.internet]
  | '%' => some [.literal '%']
  | _ => none

/-- The padding that a character before the letter asks for. -/
def padding? (c : Char) : Option Padding :=
  if c = '-' then some .none
  else if c = '_' then some .spaces
  else if c = '0' then some .zeros
  else none

/-- A number with another padding; only a directive for a single number takes
one. -/
def repad? (padding : Padding) : List Item -> Option (List Item)
  | [.number n _] => some [.number n padding]
  | _ => none

/-- The items of the directive after a percent sign, and how many characters it
takes. -/
def directive? (cs : List Char) : Option (List Item × Nat) :=
  match cs with
  | ':' :: ':' :: ':' :: 'z' :: _ => some ([.offset .hours], 4)
  | ':' :: ':' :: 'z' :: _ => some ([.offset .seconds], 3)
  | ':' :: 'z' :: _ => some ([.offset .colon], 2)
  | '.' :: '3' :: 'f' :: _ => some ([.fraction true 3], 3)
  | '.' :: '6' :: 'f' :: _ => some ([.fraction true 6], 3)
  | '.' :: '9' :: 'f' :: _ => some ([.fraction true 9], 3)
  | '.' :: 'f' :: _ => some ([.fraction true 0], 2)
  | '3' :: 'f' :: _ => some ([.fraction false 3], 2)
  | '6' :: 'f' :: _ => some ([.fraction false 6], 2)
  | '9' :: 'f' :: _ => some ([.fraction false 9], 2)
  | '#' :: 'z' :: _ => some ([.anyOffset], 2)
  | c :: rest =>
      match padding? c with
      | none => (letter? c).map fun items => (items, 1)
      | some padding =>
          match rest with
          | [] => none
          | c :: _ =>
              ((letter? c).bind (repad? padding)).map fun items => (items, 2)
  | [] => none

/-!
## Patterns
-/

/-- The items of a pattern, unless one of its directives is unknown. -/
def items? : List Char -> Option (List Item)
  | [] => some []
  | c :: rest =>
      if c = '%' then do
        let (items, used) <- directive? rest
        return items ++ (<- items? (rest.drop used))
      else do return .literal c :: (<- items? rest)
termination_by cs => cs.length
decreasing_by
  all_goals simp only [List.length_drop, List.length_cons]
  all_goals omega

end Time
end Reshape
