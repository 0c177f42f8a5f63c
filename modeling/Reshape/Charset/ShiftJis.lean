import Reshape.Charset.DoubleByte
import Reshape.Charset.Index.Jis0208

/-!
# Shift_JIS

JIS X 0208 with the vendors' extensions, the half-width katakana as single
bytes, and rows of private-use characters, which are read but never written.
-/

namespace Reshape
namespace Charset
namespace ShiftJis

open Unicode

def pointer? (lead trail : UInt8) : Option Nat :=
  if between 0x40 0x7E trail || between 0x80 0xFC trail then
    some ((lead.toNat - if lead.toNat < 0xA0 then 0x81 else 0xC1) * 188 +
      (trail.toNat - if trail.toNat < 0x7F then 0x40 else 0x41))
  else none

def pointerChar? (pointer : Nat) : Option Char :=
  if 8836 ≤ pointer ∧ pointer ≤ 10715 then
    some (Char.ofNat (0xE000 + (pointer - 8836)))
  else jis0208Index.char? pointer

def piece (b : UInt8) (rest : List UInt8) : Piece :=
  if b.toNat = 0x80 then ⟨[some '\u0080'], 0⟩
  else if between 0xA1 0xDF b then ⟨[some (halfWidthOf b)], 0⟩
  else if between 0x81 0x9F b || between 0xE0 0xFC b then
    match rest with
    | [] => malformed
    | trail :: _ => pairPiece ((pointer? b trail).bind pointerChar?) trail
  else malformed

/-!
## Writing

One of the two ranges of extension characters is left out: its characters have
later pointers too.
-/

def writableIndex : Index := jis0208Index.vacate 8272 8836

def pair (pointer : Nat) : List UInt8 :=
  let lead := pointer / 188
  let trail := pointer % 188
  [UInt8.ofNat (lead + if lead < 0x1F then 0x81 else 0xC1),
   UInt8.ofNat (trail + if trail < 0x3F then 0x40 else 0x41)]

def encodeChar? (c : Char) : Option (List UInt8) :=
  if c = '\u0080' then some [0x80]
  else if c = '\u00A5' then some [0x5C]
  else if c = '\u203E' then some [0x7E]
  else
    match halfWidth? c with
    | some b => some [b]
    | none => (writableIndex.pointer? (widenMinus c)).map pair

end ShiftJis
end Charset
end Reshape
