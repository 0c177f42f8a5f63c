import Reshape.Unicode.Blank
import Reshape.Unicode.Utf8

/-!
# The host

What an expression or a time may ask of the machine: its name, its environment
and its time zone.
-/

namespace Reshape

open Unicode

structure Host where
  /-- The name as the system gives it. -/
  name : List UInt8
  /-- Names and values of the environment. -/
  environment : List (String × List UInt8)
  /-- How many seconds the local time is ahead of universal time. -/
  zone : Int

namespace Host

def hostname (host : Host) : String :=
  trimmed (Utf8.toStringLossy host.name)

/-- The line of the environment that gives a name its value. -/
def environmentLine (setting : String × List UInt8) : List UInt8 :=
  Utf8.ofString setting.1 ++ '='.toUInt8 :: setting.2

/-- The value of a name: what follows the name and an equals sign on the first
line that begins so.  The empty name and names with a zero byte have no
value. -/
def environmentValue? (host : Host) (name : String) : Option String :=
  if name.isEmpty || name.toList.contains '\x00' then none
  else
    let lead := Utf8.ofString name ++ ['='.toUInt8]
    ((host.environment.map environmentLine).find? lead.isPrefixOf).map
      fun found =>
      Utf8.toStringLossy (found.drop lead.length)

end Host

end Reshape
