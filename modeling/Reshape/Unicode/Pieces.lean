/-!
# Reading bytes piece by piece

A stateless encoding is read from the front: the first byte and what follows it
make up one piece, and the rest is read in the same way.  `readPieces` does this
for any rule that says what a piece is.
-/

namespace Reshape
namespace Unicode

/-- What one step of reading yields: the characters, with `none` for a malformed
stretch, and how many bytes it used after the first. -/
structure Piece where
  chars : List (Option Char)
  used : Nat
  deriving DecidableEq

def readPieces (piece : UInt8 -> List UInt8 -> Piece) :
    List UInt8 -> List (Option Char)
  | [] => []
  | b :: rest =>
      (piece b rest).chars ++ readPieces piece (rest.drop (piece b rest).used)
termination_by bytes => bytes.length
decreasing_by
  simp only [List.length_drop, List.length_cons]
  omega

end Unicode
end Reshape
