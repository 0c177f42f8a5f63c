import Reshape.Charset.DoubleByte
import Reshape.Charset.Index.Jis0208
import Reshape.Charset.Index.Jis0212

/-!
# EUC-JP

Pairs for JIS X 0208, a prefix byte for the half-width katakana, and another
prefix byte for JIS X 0212, which is read but never written.
-/

namespace Reshape
namespace Charset
namespace EucJp

open Unicode

def pairChar? (index : Index) (lead trail : UInt8) : Option Char :=
  if between 0xA1 0xFE lead && between 0xA1 0xFE trail then
    index.char? ((lead.toNat - 0xA1) * 94 + (trail.toNat - 0xA1))
  else none

/-- What follows the prefix of the supplementary set and the lead byte of a
pair. -/
def supplementPiece (lead : UInt8) : List UInt8 -> Piece
  | [] => ⟨[none], 1⟩
  | trail :: _ =>
      let pair := pairPiece (pairChar? jis0212Index lead trail) trail
      ⟨pair.chars, pair.used + 1⟩

def piece (b : UInt8) (rest : List UInt8) : Piece :=
  if b.toNat = 0x8E || b.toNat = 0x8F || between 0xA1 0xFE b then
    match rest with
    | [] => malformed
    | next :: rest =>
        if b.toNat = 0x8E && between 0xA1 0xDF next then
          ⟨[some (halfWidthOf next)], 1⟩
        else if b.toNat = 0x8F && between 0xA1 0xFE next then
          supplementPiece next rest
        else pairPiece (pairChar? jis0208Index b next) next
  else malformed

def encodeChar? (c : Char) : Option (List UInt8) :=
  if c = '\u00A5' then some [0x5C]
  else if c = '\u203E' then some [0x7E]
  else
    match halfWidth? c with
    | some b => some [0x8E, b]
    | none =>
        (jis0208Index.pointer? (widenMinus c)).map fun pointer =>
          [UInt8.ofNat (pointer / 94 + 0xA1), UInt8.ofNat (pointer % 94 + 0xA1)]

end EucJp
end Charset
end Reshape
