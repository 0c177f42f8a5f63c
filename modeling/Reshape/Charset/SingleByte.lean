import Reshape.Charset.Encoding
import Reshape.Charset.Index.SingleByte
import Reshape.Unicode.Pieces

/-!
# Single-byte encodings

Every byte is one character or malformed by itself.  This module reads and
writes the bytes from 128 up; the bytes below are ASCII in all of these sets.
-/

namespace Reshape
namespace Charset

open Unicode

namespace SingleByte

/-- The upper half of the set.  Logical and visual order of the Hebrew set share
one index. -/
def index : SingleByte -> Index
  | .ibm866 => ibm866Index
  | .iso8859_2 => iso8859_2Index
  | .iso8859_3 => iso8859_3Index
  | .iso8859_4 => iso8859_4Index
  | .iso8859_5 => iso8859_5Index
  | .iso8859_6 => iso8859_6Index
  | .iso8859_7 => iso8859_7Index
  | .iso8859_8 => iso8859_8Index
  | .iso8859_8I => iso8859_8Index
  | .iso8859_10 => iso8859_10Index
  | .iso8859_13 => iso8859_13Index
  | .iso8859_14 => iso8859_14Index
  | .iso8859_15 => iso8859_15Index
  | .iso8859_16 => iso8859_16Index
  | .koi8R => koi8RIndex
  | .koi8U => koi8UIndex
  | .macintosh => macintoshIndex
  | .windows874 => windows874Index
  | .windows1250 => windows1250Index
  | .windows1251 => windows1251Index
  | .windows1252 => windows1252Index
  | .windows1253 => windows1253Index
  | .windows1254 => windows1254Index
  | .windows1255 => windows1255Index
  | .windows1256 => windows1256Index
  | .windows1257 => windows1257Index
  | .windows1258 => windows1258Index
  | .macCyrillic => macCyrillicIndex

def piece (set : SingleByte) (b : UInt8) (_ : List UInt8) : Piece :=
  ⟨[set.index.char? (b.toNat - 128)], 0⟩

def encodeChar? (set : SingleByte) (c : Char) : Option (List UInt8) :=
  (set.index.pointer? c).map fun pointer => [UInt8.ofNat (128 + pointer)]

end SingleByte

/-!
## The private-use bytes

The user-defined encoding moves the upper bytes to U+F780 and on.
-/

namespace UserDefined

def piece (b : UInt8) (_ : List UInt8) : Piece :=
  ⟨[some (Char.ofNat (0xF700 + b.toNat))], 0⟩

def encodeChar? (c : Char) : Option (List UInt8) :=
  if 0xF780 ≤ c.toNat ∧ c.toNat ≤ 0xF7FF then
    some [UInt8.ofNat (c.toNat - 0xF700)]
  else none

end UserDefined

end Charset
end Reshape
