import Reshape.Charset.Index
import Reshape.Unicode.Pieces

/-!
# What the multi-byte encodings share

A lead byte and a trail byte that name no character are malformed together,
unless the trail byte is ASCII: then the lead byte alone is malformed and the
trail byte stands for itself.
-/

namespace Reshape
namespace Charset

open Unicode

def isAscii (b : UInt8) : Bool :=
  b.toNat < 0x80

def between (low high : Nat) (b : UInt8) : Bool :=
  low ≤ b.toNat && b.toNat ≤ high

/-- One malformed byte, after which reading goes on. -/
def malformed : Piece := ⟨[none], 0⟩

/-- The character of a pair whose trail byte is `trail`, or the malformed
stretch. -/
def pairPiece (char : Option Char) (trail : UInt8) : Piece :=
  match char with
  | some c => ⟨[some c], 1⟩
  | none => if isAscii trail then malformed else ⟨[none], 1⟩

/-- The code point `code`, and nothing for a surrogate or a number above
U+10FFFF. -/
def charOf? (code : Nat) : Option Char :=
  if code.isValidChar then some (Char.ofNat code) else none

/-- The half-width katakana are the bytes 0xA1 to 0xDF of the Japanese
encodings. -/
def halfWidth? (c : Char) : Option UInt8 :=
  if 0xFF61 ≤ c.toNat ∧ c.toNat ≤ 0xFF9F then
    some (UInt8.ofNat (c.toNat - 0xFF61 + 0xA1))
  else none

def halfWidthOf (b : UInt8) : Char :=
  Char.ofNat (0xFF61 + (b.toNat - 0xA1))

/-- The Japanese encodings write the minus sign as its full-width form. -/
def widenMinus (c : Char) : Char :=
  if c = '\u2212' then '\uFF0D' else c

end Charset
end Reshape
