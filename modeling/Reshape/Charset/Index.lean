/-!
# Character indexes

The multi-byte encodings number their characters: an index gives the character
at a pointer, and the first pointer of a character.  Cells without a character
hold U+FFFD.
-/

namespace Reshape
namespace Charset

structure Index where
  cells : Array Char

namespace Index

/-- What an empty cell holds.  No index lists this character itself. -/
def vacant : Char := '\uFFFD'

def ofRows (rows : List String) : Index :=
  ⟨(rows.flatMap String.toList).toArray⟩

/-!
## Looking up
-/

def char? (index : Index) (pointer : Nat) : Option Char :=
  match index.cells[pointer]? with
  | some c => if c = vacant then none else some c
  | none => none

/-- The least pointer of a character. -/
def pointer? (index : Index) (c : Char) : Option Nat :=
  if c = vacant then none else index.cells.findIdx? (· == c)

/-- The greatest pointer of a character. -/
def lastPointer? (index : Index) (c : Char) : Option Nat :=
  if c = vacant then none
  else (index.cells.reverse.findIdx? (· == c)).map (index.cells.size - 1 - ·)

/-- The index with the cells `first` to `last - 1` emptied: an encoder that must
not use a range of pointers looks its characters up here. -/
def vacate (index : Index) (first last : Nat) : Index :=
  ⟨index.cells.mapIdx
    fun pointer c => if first ≤ pointer ∧ pointer < last then vacant else c⟩

end Index

end Charset
end Reshape
