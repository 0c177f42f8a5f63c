import Reshape.Charset.DoubleByte
import Reshape.Charset.Index.EucKr

/-!
# EUC-KR

The Wansung set with its extension to all Korean syllables.
-/

namespace Reshape
namespace Charset
namespace EucKr

open Unicode

def pairChar? (lead trail : UInt8) : Option Char :=
  if between 0x41 0xFE trail then
    eucKrIndex.char? ((lead.toNat - 0x81) * 190 + (trail.toNat - 0x41))
  else none

def piece (b : UInt8) (rest : List UInt8) : Piece :=
  if between 0x81 0xFE b then
    match rest with
    | [] => malformed
    | trail :: _ => pairPiece (pairChar? b trail) trail
  else malformed

def encodeChar? (c : Char) : Option (List UInt8) :=
  (eucKrIndex.pointer? c).map fun pointer =>
    [UInt8.ofNat (pointer / 190 + 0x81), UInt8.ofNat (pointer % 190 + 0x41)]

end EucKr
end Charset
end Reshape
