import Reshape.Charset
import Reshape.Unicode.Quoted

/-!
# Text

A string of a record: its bytes and the charset they are declared in.  The bytes
need not be valid there.
-/

namespace Reshape

open Unicode

structure Text where
  bytes : List UInt8
  charset : Charset
  deriving DecidableEq

namespace Text

def ofString (s : String) : Text :=
  ⟨Utf8.ofString s, .utf8⟩

def binary (bytes : List UInt8) : Text :=
  ⟨bytes, .binary⟩

def shown (text : Text) : String :=
  String.ofList (text.charset.shownChars text.bytes)

/-- The text between quotes, with its charset. -/
def described (text : Text) : String :=
  quoted text.shown ++ "@" ++ text.charset.name

/-!
## Joining

ASCII bytes read the same in every charset, so only the other parts have a say
in the charset of the whole.
-/

def isAscii (text : Text) : Bool :=
  text.bytes.all Charset.isAscii

/-- The charset after one more part.  There is none as long as every part was
ASCII, and parts that differ are binary together. -/
def merge (current : Option Charset) (part : Text) : Option Charset :=
  if part.isAscii then current
  else
    match current with
    | none => some part.charset
    | some charset => some (if part.charset = charset then charset else .binary)

def jointCharset (parts : List Text) : Charset :=
  (parts.foldl merge none).getD .utf8

def join (parts : List Text) : Text :=
  ⟨parts.flatMap Text.bytes, jointCharset parts⟩

end Text

end Reshape
