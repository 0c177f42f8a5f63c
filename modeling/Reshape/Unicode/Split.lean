/-!
# Splitting text

A text is cut at every occurrence of a character.  There is always one more
piece than there are cuts, so the empty text is one empty piece.
-/

namespace Reshape
namespace Unicode

def splitOn (separator : Char) : List Char -> List (List Char)
  | [] => [[]]
  | c :: cs =>
      if c = separator then [] :: splitOn separator cs
      else
        match splitOn separator cs with
        | [] => [[c]]
        | piece :: pieces => (c :: piece) :: pieces

/-- The pieces put together again. -/
def joinWith (separator : Char) : List (List Char) -> List Char
  | [] => []
  | [piece] => piece
  | piece :: pieces => piece ++ separator :: joinWith separator pieces

def splitOnce (separator : Char) : List Char -> Option (List Char × List Char)
  | [] => none
  | c :: cs =>
      if c = separator then some ([], cs)
      else (splitOnce separator cs).map fun halves => (c :: halves.1, halves.2)

end Unicode
end Reshape
