/-!
# Chunks

Positions are cut into ranges of one size, the last of which may be shorter.
-/

namespace Reshape
namespace Engine

/-- The positions from `start` up to but not including `stop`. -/
structure Range where
  start : Nat
  stop : Nat
  deriving DecidableEq

def Range.length (range : Range) : Nat :=
  range.stop - range.start

/-- The ranges from a position up to `count`, for a positive size. -/
def rangesFrom (count size : Nat) (positive : 0 < size) (start : Nat) :
    List Range :=
  if start < count then
    let stop := min (start + size) count
    ⟨start, stop⟩ :: rangesFrom count size positive stop
  else []
termination_by count - start
decreasing_by lia

def chunkRanges (count size : Nat) (positive : 0 < size) : List Range :=
  rangesFrom count size positive 0

/-- Hands out the items in turn, as many to each range as it is long. -/
def deal {α : Type} : List Range -> List α -> List (Range × List α)
  | [], _ => []
  | range :: ranges, items =>
      (range, items.take range.length) :: deal ranges (items.drop range.length)

/-!
## Cutting in words

A machine counts in words of some width.  It allocates the room for all ranges
before it cuts the first, and it adds a size to a position before it compares
the sum with the count.
-/

section Words

variable {width : Nat}

inductive CutFailure where
  /-- More room is asked for than an allocation may have. -/
  | capacity
  /-- A sum does not fit a word. -/
  | overflow
  deriving DecidableEq

def ceilDiv (count size : BitVec width) : BitVec width :=
  if 0 < count % size then count / size + 1 else count / size

/-- The bytes of a range, which is two words. -/
def rangeBytes (width : Nat) : Nat :=
  2 * (width / 8)

/-- No allocation has more bytes than a signed word can count. -/
def reserve (ranges : BitVec width) : Except CutFailure Unit :=
  if rangeBytes width * ranges.toNat ≤ (BitVec.intMax width).toNat then .ok ()
  else .error .capacity

def wordRangesFrom (count size : BitVec width) (positive : 0 < size.toNat)
    (start : BitVec width) : Except CutFailure (List Range) :=
  if _left : start < count then
    if _overflows : BitVec.uaddOverflow start size then .error .overflow
    else
      let stop := if start + size ≤ count then start + size else count
      (wordRangesFrom count size positive stop).map
        (⟨start.toNat, stop.toNat⟩ :: ·)
  else .ok []
termination_by count.toNat - start.toNat
decreasing_by
  rw [BitVec.lt_def] at _left
  split
  · rw [BitVec.toNat_add_of_not_uaddOverflow _overflows]
    lia
  · lia

def wordRanges (count size : BitVec width) (positive : 0 < size.toNat) :
    Except CutFailure (List Range) := do
  reserve (ceilDiv count size)
  wordRangesFrom count size positive 0

end Words

end Engine
end Reshape
