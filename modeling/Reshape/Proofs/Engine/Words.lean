import Mathlib.Algebra.Order.Floor.Div
import Mathlib.Data.List.Chain
import Reshape.Proofs.Engine.Chunks

/-!
# Ranges in machine words

A machine cuts the ranges with words of some width.  As long as the count stays
in the lower half of the words, which is what a signed word can hold, every sum
of a position and a size fits a word, however large the size: a position that is
not zero is at least a size from the start, so both lie below the count.  What
can fail is the allocation, and items that are stored somewhere are too few for
that.  The ranges cut the positions below the count into pieces of one size.
-/

namespace Reshape
namespace Engine

/-!
## Cutting in words
-/

section Words

variable {width : Nat}

theorem ceilDiv_eq_div (count : Nat) {size : Nat} (positive : 0 < size) :
    count ⌈/⌉ size =
      if 0 < count % size then count / size + 1 else count / size := by
  have hdivide := Nat.div_add_mod' count size
  have hmod := Nat.mod_lt count positive
  rw [Nat.ceilDiv_eq_add_pred_div]
  split
  · apply Nat.div_eq_of_lt_le
    · rw [Nat.succ_mul]
      lia
    · rw [Nat.succ_mul, Nat.succ_mul]
      lia
  · apply Nat.div_eq_of_lt_le
    · lia
    · rw [Nat.succ_mul]
      lia

theorem ceilDiv_le_self (count : Nat) {size : Nat} (positive : 0 < size) :
    count ⌈/⌉ size ≤ count := by
  rw [ceilDiv_le_iff_le_mul positive]
  exact Nat.le_mul_of_pos_left count positive

/-- The rounded quotient is at most the count, so it fits a word as well. -/
theorem toNat_ceilDiv (count : BitVec width) {size : BitVec width}
    (positive : 0 < size.toNat) :
    (ceilDiv count size).toNat = count.toNat ⌈/⌉ size.toNat := by
  have hle := ceilDiv_le_self count.toNat positive
  have hrest : 0 < count % size <-> 0 < count.toNat % size.toNat := by
    rw [BitVec.lt_def, BitVec.toNat_umod]
    exact Iff.rfl
  unfold ceilDiv
  rw [ceilDiv_eq_div count.toNat positive] at hle ⊢
  split
  · rename_i hmore
    have hcount := count.isLt
    rw [if_pos (hrest.mp hmore)] at hle ⊢
    have hone : (1 : BitVec width).toNat = 1 := Nat.mod_eq_of_lt (by lia)
    have hfits :
        (count / size).toNat + (1 : BitVec width).toNat < 2 ^ width := by
      rw [BitVec.toNat_udiv, hone]
      lia
    rw [BitVec.toNat_add_of_lt hfits, BitVec.toNat_udiv, hone]
  · rename_i hnone
    rw [if_neg (mt hrest.mpr hnone)]
    exact BitVec.toNat_udiv

theorem toNat_ite_le (m n : BitVec width) :
    (if m ≤ n then m else n).toNat = min m.toNat n.toNat := by
  split
  · rename_i hle
    rw [BitVec.le_def] at hle
    exact (Nat.min_eq_left hle).symm
  · rename_i hgt
    rw [BitVec.le_def] at hgt
    exact (Nat.min_eq_right (by lia)).symm

/-- What holds of the positions that the cutting comes to. -/
def Reached (count size start : Nat) : Prop :=
  start < count -> start = 0 ∨ size ≤ start

theorem reached_stop (count size start : Nat) :
    Reached count size (min (start + size) count) := by
  intro h
  right
  lia

theorem fits_of_reached {count size : BitVec width} {start : Nat}
    (hcount : count.toNat ≤ (BitVec.intMax width).toNat)
    (hstart : start < count.toNat)
    (hreached : Reached count.toNat size.toNat start) :
    start + size.toNat < 2 ^ width := by
  have hsize := size.isLt
  rw [BitVec.toNat_intMax] at hcount
  rcases hreached hstart with rfl | hpast
  · rw [Nat.zero_add]
    exact hsize
  · have hhalf : 2 * 2 ^ (width - 1) ≤ 2 ^ width := by
      cases width with
      | zero => lia
      | succ width =>
          rw [Nat.pow_succ, Nat.mul_comm]
          exact Nat.le_refl _
    lia

theorem wordRangesFrom_eq {count size : BitVec width}
    (hcount : count.toNat ≤ (BitVec.intMax width).toNat)
    (positive : 0 < size.toNat) {start : BitVec width}
    (hreached : Reached count.toNat size.toNat start.toNat) :
    wordRangesFrom count size positive start =
      .ok (rangesFrom count.toNat size.toNat positive start.toNat) := by
  fun_induction wordRangesFrom count size positive start with
  | case1 start hleft hoverflows =>
      rw [BitVec.lt_def] at hleft
      have hfits := fits_of_reached hcount hleft hreached
      exact absurd (of_decide_eq_true hoverflows) (Nat.not_le.mpr hfits)
  | case2 start hleft hfits stop ih =>
      rw [BitVec.lt_def] at hleft
      have hstop : stop.toNat = min (start.toNat + size.toNat) count.toNat := by
        rw [← BitVec.toNat_add_of_not_uaddOverflow hfits]
        exact toNat_ite_le (start + size) count
      have hnext : Reached count.toNat size.toNat stop.toNat := by
        rw [hstop]
        exact reached_stop count.toNat size.toNat start.toNat
      rw [rangesFrom_of_lt positive hleft, ← hstop, ih hnext]
      rfl
  | case3 start hdone =>
      rw [BitVec.lt_def, Nat.not_lt] at hdone
      rw [rangesFrom_of_le positive hdone]

/-- The allocation decides: after it no sum overflows. -/
theorem wordRanges_eq {count size : BitVec width}
    (hcount : count.toNat ≤ (BitVec.intMax width).toNat)
    (positive : 0 < size.toNat) :
    wordRanges count size positive =
      if rangeBytes width * (count.toNat ⌈/⌉ size.toNat) ≤
          (BitVec.intMax width).toNat then
        .ok (chunkRanges count.toNat size.toNat positive)
      else .error .capacity := by
  have hzero : (0 : BitVec width).toNat = 0 := BitVec.toNat_zero
  unfold wordRanges reserve
  rw [toNat_ceilDiv count positive,
    wordRangesFrom_eq hcount positive (fun _ => .inl hzero), hzero]
  split
  · rfl
  · rfl

/-- Items that are stored, each in as many bytes as a range at least, leave room
for their ranges.  So an engine always gets the ranges of its events, which have
a time and a record each. -/
theorem wordRanges_of_stored {count size : BitVec width} {itemBytes : Nat}
    (positive : 0 < size.toNat) (hitem : 0 < itemBytes)
    (hbytes : rangeBytes width ≤ itemBytes)
    (hstored : itemBytes * count.toNat ≤ (BitVec.intMax width).toNat) :
    wordRanges count size positive =
      .ok (chunkRanges count.toNat size.toNat positive) := by
  have hcount : count.toNat ≤ itemBytes * count.toNat :=
    Nat.le_mul_of_pos_left count.toNat hitem
  have hroom : rangeBytes width * (count.toNat ⌈/⌉ size.toNat) ≤
      itemBytes * count.toNat :=
    Nat.mul_le_mul hbytes (ceilDiv_le_self count.toNat positive)
  rw [wordRanges_eq (Nat.le_trans hcount hstored) positive,
    if_pos (Nat.le_trans hroom hstored)]

end Words

/-!
## What the ranges cut
-/

/-- Ranges that cut the positions below a count into pieces of a size, the last
of which may be shorter. -/
structure Cuts (count size : Nat) (ranges : List Range) : Prop where
  length : ranges.length = count ⌈/⌉ size
  filled : forall range, range ∈ ranges -> range.start < range.stop
  adjacent : ranges.IsChain fun range next => range.stop = next.start
  covers : ranges.flatMap Range.positions = List.range count
  full : forall range, range ∈ ranges.dropLast -> range.length = size
  short : forall range, range ∈ ranges -> range.length ≤ size

section Ranges

variable {count size : Nat} {positive : 0 < size}

theorem start_of_head {start : Nat} {range : Range}
    (h : (rangesFrom count size positive start).head? = some range) :
    range.start = start := by
  rcases Nat.lt_or_ge start count with hlt | hle
  · rw [rangesFrom_of_lt positive hlt] at h
    cases h
    rfl
  · rw [rangesFrom_of_le positive hle] at h
    cases h

theorem adjacent_rangesFrom (start : Nat) :
    (rangesFrom count size positive start).IsChain
      fun range next => range.stop = next.start := by
  fun_induction rangesFrom count size positive start with
  | case1 start hlt stop ih =>
      refine List.isChain_cons.mpr ⟨?_, ih⟩
      intro next hnext
      exact (start_of_head hnext).symm
  | case2 start hle => exact .nil

theorem flatMap_positions_rangesFrom (start : Nat) :
    (rangesFrom count size positive start).flatMap Range.positions =
      List.range' start (count - start) := by
  fun_induction rangesFrom count size positive start with
  | case1 start hlt stop ih =>
      have hstop : stop = start + (stop - start) := by lia
      have hall : count - start = stop - start + (count - stop) := by lia
      rw [List.flatMap_cons, ih, hall, ← List.range'_append_1, ← hstop]
      rfl
  | case2 start hle =>
      rw [Nat.sub_eq_zero_of_le (Nat.le_of_not_lt hle)]
      rfl

theorem full_of_mem_dropLast {start : Nat} {range : Range}
    (h : range ∈ (rangesFrom count size positive start).dropLast) :
    range.length = size := by
  fun_induction rangesFrom count size positive start with
  | case1 start hlt stop ih =>
      rcases Nat.lt_or_ge stop count with hmore | hlast
      · have hne : rangesFrom count size positive stop ≠ [] := by
          rw [rangesFrom_of_lt positive hmore]
          exact List.cons_ne_nil _ _
        rw [List.dropLast_cons_of_ne_nil hne] at h
        rcases List.mem_cons.mp h with rfl | hlater
        · show stop - start = size
          lia
        · exact ih hlater
      · rw [rangesFrom_of_le positive hlast] at h
        cases h
  | case2 start hle => cases h

theorem cuts_chunkRanges (count : Nat) (positive : 0 < size) :
    Cuts count size (chunkRanges count size positive) where
  length := by
    rw [Nat.ceilDiv_eq_add_pred_div]
    exact length_rangesFrom count size positive 0
  filled range h := Nat.lt_of_sub_pos (bounded_of_mem_rangesFrom h).left
  adjacent := adjacent_rangesFrom 0
  covers := by
    rw [List.range_eq_range']
    exact flatMap_positions_rangesFrom 0
  full range h := full_of_mem_dropLast h
  short range h := (bounded_of_mem_rangesFrom h).right

end Ranges

/-!
## The items of the ranges
-/

section Items

variable {α : Type}

theorem map_some_take_drop {items : List α} {start length : Nat}
    (h : start + length ≤ items.length) :
    ((items.drop start).take length).map some =
      (List.range' start length).map fun i => items[i]? := by
  apply List.ext_getElem
  · rw [List.length_map, List.length_map, List.length_take, List.length_drop,
      List.length_range']
    lia
  · intro i hleft hright
    rw [List.length_map, List.length_range'] at hright
    rw [List.getElem_map, List.getElem_map, List.getElem_take,
      List.getElem_drop, List.getElem_range', Nat.one_mul,
      List.getElem?_eq_getElem (by lia)]

theorem items_of_mem_deal {size : Nat} {positive : 0 < size} {items : List α}
    {start : Nat} {chunk : Range × List α}
    (h : chunk ∈
      deal (rangesFrom items.length size positive start) (items.drop start)) :
    chunk.2.map some = chunk.1.positions.map fun i => items[i]? := by
  fun_induction rangesFrom items.length size positive start with
  | case1 start hlt stop ih =>
      have hstop : start + (stop - start) = stop := by lia
      rw [deal, Range.length, List.drop_drop, hstop] at h
      rcases List.mem_cons.mp h with rfl | hlater
      · exact map_some_take_drop (by lia)
      · exact ih hlater
  | case2 start hle => cases h

/-- With a count that a signed word holds the cutting ends, and no sum of it
overflows.  If the ranges have room it comes to the ranges that cut the
positions, and each range is dealt the items at its own; otherwise it fails
before the first. -/
theorem wordRanges_cut {width : Nat} {count size : BitVec width}
    (hcount : count.toNat ≤ (BitVec.intMax width).toNat)
    (positive : 0 < size.toNat) :
    wordRanges count size positive =
        (if rangeBytes width * (count.toNat ⌈/⌉ size.toNat) ≤
            (BitVec.intMax width).toNat then
          .ok (chunkRanges count.toNat size.toNat positive)
        else .error .capacity) ∧
      Cuts count.toNat size.toNat
        (chunkRanges count.toNat size.toNat positive) ∧
      forall (α : Type) (items : List α), items.length = count.toNat ->
        (deal (chunkRanges count.toNat size.toNat positive) items).map
          Prod.fst =
            chunkRanges count.toNat size.toNat positive ∧
          forall chunk,
            chunk ∈ deal (chunkRanges count.toNat size.toNat positive) items ->
              chunk.2.map some = chunk.1.positions.map fun i => items[i]? := by
  refine ⟨wordRanges_eq hcount positive, cuts_chunkRanges count.toNat positive,
    ?_⟩
  intro α items hlength
  refine ⟨map_fst_deal _ items, ?_⟩
  intro chunk hchunk
  rw [← hlength] at hchunk
  have hdealt : chunk ∈
      deal (rangesFrom items.length size.toNat positive 0) (items.drop 0) :=
    hchunk
  exact items_of_mem_deal hdealt

theorem wordRanges_cut_near_limits :
    wordRanges (0x7FFFFFFFFFFFFFFF : BitVec 64) 0x7FFFFFFFFFFFFFFE (by decide) =
        .ok [⟨0, 0x7FFFFFFFFFFFFFFE⟩,
          ⟨0x7FFFFFFFFFFFFFFE, 0x7FFFFFFFFFFFFFFF⟩] ∧
      (chunkRanges 5 2 (by decide)).length = 3 ∧
      forall chunk,
        chunk ∈ deal (chunkRanges 5 2 (by decide)) ['a', 'b', 'c', 'd', 'e'] ->
          chunk.2.map some =
            chunk.1.positions.map fun i => ['a', 'b', 'c', 'd', 'e'][i]? := by
  have hlimits :=
    @wordRanges_cut 64 0x7FFFFFFFFFFFFFFF 0x7FFFFFFFFFFFFFFE (by decide)
      (by decide)
  have hfive := @wordRanges_cut 64 5 2 (by decide) (by decide)
  refine ⟨?_, hfive.right.left.length,
    (hfive.right.right Char ['a', 'b', 'c', 'd', 'e'] rfl).right⟩
  rw [hlimits.left, if_pos (by decide)]
  simp [chunkRanges, rangesFrom]

/-- The greatest count has a range for every position if the size is one, and no
allocation has room for them. -/
theorem wordRanges_greatest_refused :
    (0x7FFFFFFFFFFFFFFF : BitVec 64).toNat ≤ (BitVec.intMax 64).toNat ∧
      wordRanges (0x7FFFFFFFFFFFFFFF : BitVec 64) 1 (by decide) =
        .error .capacity :=
  ⟨by decide, rfl⟩

/-- In the upper half a sum may overflow. -/
example :
    wordRangesFrom (200 : BitVec 8) 150 (by decide) 0 = .error .overflow := by
  cbv

end Items

end Engine
end Reshape
