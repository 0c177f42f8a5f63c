import Reshape.Error
import Reshape.Json.Reader
import Reshape.Unicode.Split

/-!
# Events

A record with the second it belongs to.  Events are read from a JSON array or
from lines of JSON; either way an event is a pair of a time and an object, or an
object alone, which gets a default time.
-/

namespace Reshape

open Unicode

abbrev Event := Int64 × Record

namespace Event

def time? : Json -> Option Int64
  | .number (.integer n _) =>
      if n < 0x8000000000000000 then some (Int64.ofInt n) else none
  | _ => none

def recordOf (members : List (String × Json)) : Record :=
  Value.ofJsonMembers members

/-- The event of a JSON value that stands on a line, or as an item in the place
of one. -/
def ofJson (line : Nat) (defaultTime : Int64) : Json -> Except Error Event
  | .object members => .ok (defaultTime, recordOf members)
  | .array [time, .object members] =>
      match time? time with
      | some t => .ok (t, recordOf members)
      | none => .error (.invalidRecord line (.timeNotInteger time))
  | .array _ => .error (.invalidRecord line .notPair)
  | json => .error (.invalidRecord line (.notEvent json))

/-!
## Reading
-/

def isPair : List Json -> Bool
  | [time, .object _] => (time? time).isSome
  | _ => false

/-- The events of items or lines with their numbers, up to the first that is
none. -/
def ofItems (defaultTime : Int64) (line : Nat) :
    List Json -> Except Error (List Event)
  | [] => .ok []
  | json :: rest => do
      let event <- ofJson line defaultTime json
      return event :: (<- ofItems defaultTime (line + 1) rest)

/-- The event on a line; `none` on a blank one. -/
def ofLine (defaultTime : Int64) (line : Nat) (cs : List Char) :
    Except Error (Option Event) :=
  let cs := trim cs
  if cs.isEmpty then .ok none
  else
    match Json.parseChars? cs with
    | none => .error (.invalidRecord line .malformed)
    | some json => do return some (<- ofJson line defaultTime json)

def ofLines (defaultTime : Int64) (line : Nat) :
    List (List Char) -> Except Error (List Event)
  | [] => .ok []
  | cs :: rest => do
      let event <- ofLine defaultTime line cs
      return event.toList ++ (<- ofLines defaultTime (line + 1) rest)

/-- The items of a text that is one JSON array and not a single event. -/
def items? (cs : List Char) : Option (List Json) :=
  match Json.parseChars? cs with
  | some (.array items) => if isPair items then none else some items
  | _ => none

def parseChars (cs : List Char) (defaultTime : Int64) :
    Except Error (List Event) :=
  let cs := trim cs
  if cs.isEmpty then .ok []
  else
    match items? cs with
    | some items => ofItems defaultTime 1 items
    | none => ofLines defaultTime 1 (splitOn '\n' cs)

/-- The events of a text. -/
def parse (source : String) (defaultTime : Int64) : Except Error (List Event) :=
  parseChars source.toList defaultTime

def parseRecords (source : String) : Except Error (List Record) := do
  return (<- parse source 0).map Prod.snd

/-- The events of a file, given its content if there is such a file. -/
def ofFile (content : Option (List UInt8)) (defaultTime : Int64) :
    Except Error (List Event) :=
  match content with
  | none => .error (.io "no such file")
  | some bytes =>
      match Utf8.decode? bytes with
      | none => .error (.io "the file is not UTF-8")
      | some cs => parseChars cs defaultTime

/-!
## Writing
-/

def toJson (event : Event) : Json :=
  .array [.ofInt64 event.1, .object (Value.entriesToJson event.2)]

def lineChars (event : Event) : List Char :=
  (toJson event).renderChars ++ ['\n']

/-- One pair of time and record on each line. -/
def print (events : List Event) : String :=
  String.ofList (events.flatMap lineChars)

end Event

end Reshape
