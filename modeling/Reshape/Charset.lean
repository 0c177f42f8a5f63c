import Reshape.Charset.Codec
import Reshape.Charset.Label
import Reshape.Unicode.Blank

/-!
# Charsets

What a text is declared to be written in: one of the named encodings, or nothing
at all, which makes it binary.
-/

namespace Reshape

open Unicode

inductive Charset where
  | binary
  | encoded (encoding : Charset.Encoding)
  deriving DecidableEq

namespace Charset

def utf8 : Charset := .encoded .utf8

def name : Charset -> String
  | .binary => "BINARY"
  | .encoded encoding => encoding.name

def isEncodable : Charset -> Bool
  | .binary => false
  | .encoded encoding => encoding.isEncodable

/-- Names of charsets beside the labels of the Web platform: raw bytes and
Windows code pages. -/
def aliases : List (String × Charset) :=
  [("binary", .binary), ("ascii-8bit", .binary), ("cp932", .encoded .shiftJis),
    ("ms932", .encoded .shiftJis), ("windows-31j", .encoded .shiftJis),
    ("cp936", .encoded .gbk), ("cp949", .encoded .eucKr),
    ("cp950", .encoded .big5)]

/-- The charset of a label, whatever its ASCII case and the blanks around it. -/
def forLabel? (label : String) : Option Charset :=
  let cs := trim label.toList
  match aliases.lookup (String.ofList (cs.map lowerAscii)) with
  | some charset => some charset
  | none => (Encoding.forLabel? cs).map .encoded

/-!
## The two readings of bytes

Where text is shown, binary bytes are taken for UTF-8.  Where text is converted,
only the ASCII bytes of a binary text mean anything.
-/

/-- The characters shown for bytes declared in the charset. -/
def shownChars : Charset -> List UInt8 -> List Char
  | .binary, bytes => lossy (Utf8.decode bytes)
  | .encoded encoding, bytes => lossy (encoding.decode bytes)

def asciiChar? (b : UInt8) : Option Char :=
  if isAscii b then some (Char.ofNat b.toNat) else none

/-- The characters that bytes are converted from. -/
def decode : Charset -> List UInt8 -> List (Option Char)
  | .binary, bytes => bytes.map asciiChar?
  | .encoded encoding, bytes => encoding.decode bytes

end Charset

end Reshape
