import Reshape.Host
import Reshape.Time.Rendering
import Reshape.Value.Basic

/-!
# Formatting event times

An event time becomes a value in one of three ways: the seconds as they are, the
ISO 8601 text, or a pattern.  Formatting is costly beside a comparison, so a
cache keeps the last renderings.

At the ends of the calendar a local date may be missing.  A pattern is written
all the same, but the ISO 8601 text overflows.
-/

namespace Reshape

open Unicode

inductive TimeFormat where
  | epoch
  | iso8601
  | pattern (items : List Time.Item)
  deriving DecidableEq

structure TimeFormatter where
  format : TimeFormat
  /-- Whether times are read in the local zone of the host. -/
  localTime : Bool
  deriving DecidableEq

namespace TimeFormatter

/-- A pattern that is not one. -/
structure Error where
  pattern : String
  deriving DecidableEq

def Error.message (e : Error) : String :=
  "invalid time_format " ++ quoted e.pattern

def ofPattern (pattern : String) (localTime : Bool) :
    Except Error TimeFormatter :=
  match Time.items? pattern.toList with
  | some items => .ok ⟨.pattern items, localTime⟩
  | none => .error ⟨pattern⟩

/-!
## Rendering
-/

def reading (f : TimeFormatter) (host : Host) (time : Int64) : Time.Reading :=
  ⟨time.toInt, if f.localTime then .offset host.zone else .universal⟩

/-- The text of a time.  A time without a date is written as its seconds, and a
pattern that cannot be written gives no text at all. -/
def renderChars (f : TimeFormatter) (host : Host) (time : Int64) :
    Except Time.Overflow (List Char) :=
  if !Time.isDated time.toInt then .ok (Json.intChars time.toInt)
  else
    match f.format with
    | .epoch => .ok (Json.intChars time.toInt)
    | .iso8601 => Time.writeIso8601 (f.reading host time)
    | .pattern items =>
        .ok ((Time.writeItems? (f.reading host time) items).getD [])

def render (f : TimeFormatter) (host : Host) (time : Int64) :
    Except Time.Overflow Value :=
  match f.format with
  | .epoch => .ok (.int time)
  | _ => (f.renderChars host time).map fun cs => .ofString (String.ofList cs)

end TimeFormatter

/-!
## The cache

Two slots hold times with their renderings.  When neither holds the time, the
slot with the older time gives way.
-/

structure TimeCache where
  first : Option (Int64 × Value)
  second : Option (Int64 × Value)

namespace TimeCache

def empty : TimeCache := ⟨none, none⟩

def slots (cache : TimeCache) : List (Int64 × Value) :=
  cache.first.toList ++ cache.second.toList

def find? (cache : TimeCache) (time : Int64) : Option Value :=
  (cache.slots.find? fun slot => slot.1 = time).map Prod.snd

/-- Puts a rendering into an empty slot, or else in the place of the older
time. -/
def store (cache : TimeCache) (slot : Int64 × Value) : TimeCache :=
  match cache.first, cache.second with
  | none, _ => { cache with first := some slot }
  | some _, none => { cache with second := some slot }
  | some (a, _), some (b, _) =>
      if b ≤ a then { cache with second := some slot }
      else { cache with first := some slot }

/-- The rendering of a time, with the cache that the next time is looked up
in. -/
def render (cache : TimeCache) (f : TimeFormatter) (host : Host)
    (time : Int64) : Except Time.Overflow (Value × TimeCache) :=
  match f.format with
  | .epoch => .ok (.int time, cache)
  | _ =>
      match cache.find? time with
      | some value => .ok (value, cache)
      | none =>
          (f.render host time).map
            fun value => (value, cache.store (time, value))

end TimeCache

end Reshape
