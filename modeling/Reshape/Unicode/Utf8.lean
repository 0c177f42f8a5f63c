import Reshape.Unicode.Pieces

/-!
# UTF-8

Writing is the flattening of `String.utf8EncodeChar`.  Reading never fails: a
byte that cannot begin a character, or a character cut short, is one `none`, and
reading goes on with the first byte that did not fit.
-/

namespace Reshape
namespace Unicode
namespace Utf8

def encode (cs : List Char) : List UInt8 :=
  cs.flatMap String.utf8EncodeChar

def ofString (s : String) : List UInt8 :=
  encode s.toList

/-!
## Reading
-/

/-- Takes `count` continuation bytes into `acc`.  The first of them lies between
`low` and `high`, the others anywhere among the continuation bytes. -/
def continuation : (count low high acc used : Nat) -> List UInt8 -> Piece
  | 0, _, _, acc, used, _ => ⟨[some (Char.ofNat acc)], used⟩
  | _ + 1, _, _, _, used, [] => ⟨[none], used⟩
  | count + 1, low, high, acc, used, b :: bs =>
      if low ≤ b.toNat ∧ b.toNat ≤ high then
        continuation count 0x80 0xBF (acc * 64 + b.toNat % 64) (used + 1) bs
      else ⟨[none], used⟩

/-- The piece that begins with byte `b`.  The bounds on the second byte keep out
overlong forms, surrogates and numbers above U+10FFFF. -/
def piece (b : UInt8) (rest : List UInt8) : Piece :=
  let n := b.toNat
  if n < 0x80 then ⟨[some (Char.ofNat n)], 0⟩
  else if n < 0xC2 then ⟨[none], 0⟩
  else if n < 0xE0 then continuation 1 0x80 0xBF (n - 0xC0) 0 rest
  else if n = 0xE0 then continuation 2 0xA0 0xBF 0 0 rest
  else if n = 0xED then continuation 2 0x80 0x9F 0x0D 0 rest
  else if n < 0xF0 then continuation 2 0x80 0xBF (n - 0xE0) 0 rest
  else if n = 0xF0 then continuation 3 0x90 0xBF 0 0 rest
  else if n < 0xF4 then continuation 3 0x80 0xBF (n - 0xF0) 0 rest
  else if n = 0xF4 then continuation 3 0x80 0x8F 4 0 rest
  else ⟨[none], 0⟩

def decode (bytes : List UInt8) : List (Option Char) :=
  readPieces piece bytes

def decode? (bytes : List UInt8) : Option (List Char) :=
  (decode bytes).mapM id

end Utf8

def replacement : Char := '\uFFFD'

/-- A reading with the replacement character at each malformed stretch. -/
def lossy (read : List (Option Char)) : List Char :=
  read.map (·.getD replacement)

/-- The text of the bytes, with the replacement character at each malformed
stretch. -/
def Utf8.toStringLossy (bytes : List UInt8) : String :=
  String.ofList (lossy (decode bytes))

end Unicode
end Reshape
