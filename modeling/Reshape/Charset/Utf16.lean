import Reshape.Charset.DoubleByte

/-!
# UTF-16

Read in either byte order.  A surrogate without its partner is malformed by
itself, and whatever the end of the bytes cuts short is malformed as a whole.
-/

namespace Reshape
namespace Charset
namespace Utf16

open Unicode

inductive ByteOrder where
  | big
  | little
  deriving DecidableEq

def ByteOrder.codeUnit : ByteOrder -> UInt8 -> UInt8 -> Nat
  | .big, a, b => a.toNat * 256 + b.toNat
  | .little, a, b => b.toNat * 256 + a.toNat

/-- What follows a leading surrogate. -/
def pairPiece (order : ByteOrder) (lead : Nat) : List UInt8 -> Piece
  | a :: b :: _ =>
      let trail := order.codeUnit a b
      if 0xDC00 ≤ trail ∧ trail ≤ 0xDFFF then
        ⟨[some (Char.ofNat
            (0x10000 + (lead - 0xD800) * 0x400 + (trail - 0xDC00)))],
          3⟩
      else ⟨[none], 1⟩
  | cut => ⟨[none], 1 + cut.length⟩

def piece (order : ByteOrder) (a : UInt8) : List UInt8 -> Piece
  | [] => malformed
  | b :: rest =>
      let code := order.codeUnit a b
      if 0xD800 ≤ code ∧ code ≤ 0xDBFF then pairPiece order code rest
      else ⟨[charOf? code], 1⟩

end Utf16
end Charset
end Reshape
