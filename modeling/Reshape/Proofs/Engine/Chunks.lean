import Reshape.Engine.Chunk

/-!
# Dealt chunks

The ranges of a count follow one another without a gap, and dealing the items
out to them gives each range exactly the items at its positions, so the chunks
in order are the items again.  No range is empty or longer than the size, and
there are as few of them as can be.
-/

namespace Reshape
namespace Engine

variable {α : Type}

/-!
## Ranges in a row
-/

/-- Chunks that begin at a position and follow one another, each with as many
items as its range is long. -/
def InRow : Nat -> List (Range × List α) -> Prop
  | _, [] => True
  | start, chunk :: rest =>
      chunk.1.start = start ∧ chunk.1.stop = start + chunk.2.length ∧
        InRow chunk.1.stop rest

theorem rangesFrom_of_lt {count size start : Nat} (positive : 0 < size)
    (h : start < count) :
    rangesFrom count size positive start =
      ⟨start, min (start + size) count⟩ ::
        rangesFrom count size positive (min (start + size) count) := by
  rw [rangesFrom, if_pos h]

theorem rangesFrom_of_le {count size start : Nat} (positive : 0 < size)
    (h : count ≤ start) : rangesFrom count size positive start = [] := by
  rw [rangesFrom, if_neg (Nat.not_lt.mpr h)]

/-!
## Dealing
-/

theorem deal_rangesFrom (size : Nat) (positive : 0 < size) (start : Nat)
    (items : List α) :
    InRow start
      (deal (rangesFrom (start + items.length) size positive start) items) ∧
      (deal (rangesFrom (start + items.length) size positive start)
          items).flatMap
        Prod.snd =
        items := by
  induction hn : items.length using Nat.strongRecOn
    generalizing start items with
  | ind n ih =>
      by_cases hpos : 0 < n
      · have hlt : start < start + n := by lia
        rw [rangesFrom_of_lt positive hlt]
        have hrange : Range.length ⟨start, min (start + size) (start + n)⟩ =
            min size n := by
          show min (start + size) (start + n) - start = min size n
          lia
        have hstop : min (start + size) (start + n) = start + min size n := by
          lia
        have hrest : (items.drop (min size n)).length = n - min size n := by
          rw [List.length_drop, hn]
        have hall : start + n = start + min size n + (n - min size n) := by lia
        rcases ih (n - min size n) (by lia) (start + min size n)
          (items.drop (min size n)) hrest
          with ⟨hrow, hflat⟩
        rw [← hall] at hrow hflat
        rw [deal, hrange, hstop]
        constructor
        · refine ⟨rfl, ?_, hrow⟩
          rw [List.length_take, hn]
          show start + min size n = start + min (min size n) n
          lia
        · rw [List.flatMap_cons, hflat]
          exact List.take_append_drop (min size n) items
      · have hzero : n = 0 := by lia
        have hnil : items = [] := List.length_eq_zero_iff.mp (by lia)
        rw [rangesFrom_of_le positive (by lia), hnil]
        exact ⟨trivial, rfl⟩

theorem inRow_deal_chunkRanges (size : Nat) (positive : 0 < size)
    (items : List α) :
    InRow 0 (deal (chunkRanges items.length size positive) items) := by
  have h := (deal_rangesFrom size positive 0 items).left
  rw [Nat.zero_add] at h
  exact h

theorem flatMap_deal_chunkRanges (size : Nat) (positive : 0 < size)
    (items : List α) :
    (deal (chunkRanges items.length size positive) items).flatMap Prod.snd =
      items := by
  have h := (deal_rangesFrom size positive 0 items).right
  rw [Nat.zero_add] at h
  exact h

/-!
## Positions
-/

def Range.positions (range : Range) : List Nat :=
  List.range' range.start range.length

theorem flatMap_positions_of_inRow {start : Nat}
    {chunks : List (Range × List α)} (h : InRow start chunks) :
    (chunks.flatMap fun chunk => chunk.1.positions) =
      List.range' start (chunks.flatMap Prod.snd).length := by
  induction chunks generalizing start with
  | nil => rfl
  | cons chunk rest ih =>
      rcases h with ⟨hstart, hstop, hrest⟩
      have hlength : chunk.1.length = chunk.2.length := by
        unfold Range.length
        lia
      rw [List.flatMap_cons, List.flatMap_cons, List.length_append, ih hrest,
        Range.positions, hlength, hstart, hstop]
      exact List.range'_append_1

theorem map_fst_deal (ranges : List Range) (items : List α) :
    (deal ranges items).map Prod.fst = ranges := by
  induction ranges generalizing items with
  | nil => rfl
  | cons range ranges ih => rw [deal, List.map_cons, ih]

theorem bounded_of_mem_rangesFrom {count size start : Nat} {positive : 0 < size}
    {range : Range} (h : range ∈ rangesFrom count size positive start) :
    0 < range.length ∧ range.length ≤ size := by
  fun_induction rangesFrom count size positive start with
  | case1 start hlt stop ih =>
      rcases List.mem_cons.mp h with rfl | hlater
      · show 0 < min (start + size) count - start ∧
            min (start + size) count - start ≤ size
        lia
      · exact ih hlater
  | case2 start hle => cases h

theorem length_rangesFrom (count size : Nat) (positive : 0 < size)
    (start : Nat) :
    (rangesFrom count size positive start).length =
      (count - start + size - 1) / size := by
  fun_induction rangesFrom count size positive start with
  | case1 start hlt stop ih =>
      have hstop : stop = min (start + size) count := rfl
      rw [List.length_cons, ih]
      by_cases hfull : start + size ≤ count
      · have hmore :
            count - start + size - 1 = count - stop + size - 1 + size := by
          lia
        rw [hmore, Nat.add_div_right _ positive]
      · have hlast : count - stop + size - 1 < size := by lia
        rw [Nat.div_eq_of_lt hlast]
        exact (Nat.div_eq_of_lt_le (by lia) (by lia)).symm
  | case2 start hle =>
      have hnone : count - start + size - 1 < size := by lia
      rw [Nat.div_eq_of_lt hnone]
      rfl

theorem length_deal_chunkRanges (size : Nat) (positive : 0 < size)
    (items : List α) :
    (deal (chunkRanges items.length size positive) items).length =
      (items.length + size - 1) / size := by
  rw [← List.length_map Prod.fst, map_fst_deal]
  exact length_rangesFrom items.length size positive 0

end Engine
end Reshape
