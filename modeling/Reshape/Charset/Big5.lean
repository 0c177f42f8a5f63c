import Reshape.Charset.DoubleByte
import Reshape.Charset.Index.Big5

/-!
# Big5

Read with the Hong Kong supplement; written without it, so that every reader of
Big5 can follow.
-/

namespace Reshape
namespace Charset
namespace Big5

open Unicode

/-- The four cells that stand for a letter and a combining mark. -/
def composed : List (Nat × List Char) :=
  [(1133, ['\u00CA', '\u0304']), (1135, ['\u00CA', '\u030C']),
   (1164, ['\u00EA', '\u0304']), (1166, ['\u00EA', '\u030C'])]

def pointer? (lead trail : UInt8) : Option Nat :=
  if between 0x40 0x7E trail || between 0xA1 0xFE trail then
    some ((lead.toNat - 0x81) * 157 +
      (trail.toNat - if trail.toNat < 0x7F then 0x40 else 0x62))
  else none

def pair (lead trail : UInt8) : Piece :=
  match (pointer? lead trail).bind fun pointer => composed.lookup pointer with
  | some chars => ⟨chars.map some, 1⟩
  | none => pairPiece ((pointer? lead trail).bind big5Index.char?) trail

def piece (b : UInt8) (rest : List UInt8) : Piece :=
  if between 0x81 0xFE b then
    match rest with
    | [] => malformed
    | trail :: _ => pair b trail
  else malformed

/-!
## Writing

The supplement's rows come first in the index and are left out.  Six characters
that the set lists twice are written as the later of the two.
-/

def writableIndex : Index := big5Index.vacate 0 ((0xA1 - 0x81) * 157)

def listedTwice : List Char :=
  ['\u2550', '\u255E', '\u2561', '\u256A', '\u5341', '\u5345']

def encodeChar? (c : Char) : Option (List UInt8) :=
  let pointer :=
    if c ∈ listedTwice then writableIndex.lastPointer? c
    else writableIndex.pointer? c
  pointer.map fun pointer =>
    let trail := pointer % 157
    [UInt8.ofNat (pointer / 157 + 0x81),
      UInt8.ofNat (trail + if trail < 0x3F then 0x40 else 0x62)]

end Big5
end Charset
end Reshape
