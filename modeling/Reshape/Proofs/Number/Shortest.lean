import Mathlib.Algebra.Order.Floor.Semifield
import Mathlib.Data.Rat.Floor
import Reshape.Number.Shortest
import Reshape.Proofs.Number.Rounding

/-!
# Where the shortest decimal lies

The decimal that is written for a number lies in the interval of the reals that
round to it.  The search for it does not give up, because seventeen digits
suffice: on the last grid two neighbours are closer together than the ends of
the interval, so one of the two around the number is hit.
-/

namespace Reshape
namespace Binary64

theorem natPow_eq_zpow (b : Nat) {e : Int} (he : 0 ≤ e) :
    ((Nat.pow b e.toNat : Nat) : Rat) = (b : Rat) ^ e := by
  rw [cast_pow, zpow_toNat he]

theorem natPow_eq_inv_zpow (b : Nat) {e : Int} (he : e < 0) :
    ((Nat.pow b e.natAbs : Nat) : Rat) = ((b : Rat) ^ e)⁻¹ := by
  rw [cast_pow, zpow_natAbs he]

def Decimal.value (d : Decimal) : Rat :=
  d.coefficient * 10 ^ d.exponent

theorem Decimal.value_normalize (d : Decimal) :
    d.normalize.value = d.value := by
  fun_induction Decimal.normalize d with
  | case1 d h ih =>
      have hdigit : d.coefficient = 10 * (d.coefficient / 10) := by lia
      rw [ih, Decimal.value, Decimal.value, zpow_add_one₀ (by norm_num)]
      conv => rhs; rw [hdigit]
      push_cast
      ring
  | case2 d h => rfl

/-!
## The interval of a number
-/

namespace Interval

variable {i : Interval}

theorem place_eq (i : Interval) (d : Decimal) :
    0 < (i.place d).2 ∧
      ((i.place d).1 : Rat) = d.value * i.den * (i.place d).2 := by
  unfold place Decimal.value
  split
  · rename_i he
    refine ⟨Nat.one_pos, ?_⟩
    rw [Nat.cast_mul, Nat.cast_mul, natPow_eq_zpow 10 he]
    push_cast
    ring
  · rename_i he
    have hneg := Int.lt_of_not_ge he
    refine ⟨Nat.pow_pos (by decide), ?_⟩
    rw [natPow_eq_inv_zpow 10 hneg]
    push_cast
    field_simp

theorem place_snd_eq (i : Interval) (c c' : Nat) (e : Int) :
    (i.place ⟨c, e⟩).2 = (i.place ⟨c', e⟩).2 := by
  unfold place
  split <;> rfl

section Comparisons

variable (hden : 0 < i.den)

include hden

theorem place_le_iff (d : Decimal) (n : Nat) :
    (i.place d).1 ≤ n * (i.place d).2 <-> d.value ≤ (n : Rat) / i.den := by
  rcases place_eq i d with ⟨hpos, hplace⟩
  have hden' : (0 : Rat) < i.den := by exact_mod_cast hden
  have hpos' : (0 : Rat) < (i.place d).2 := by exact_mod_cast hpos
  rw [le_div_iff₀ hden', ← mul_le_mul_iff_of_pos_right hpos', ← hplace]
  exact_mod_cast Iff.rfl

theorem le_place_iff (d : Decimal) (n : Nat) :
    n * (i.place d).2 ≤ (i.place d).1 <-> (n : Rat) / i.den ≤ d.value := by
  rcases place_eq i d with ⟨hpos, hplace⟩
  have hden' : (0 : Rat) < i.den := by exact_mod_cast hden
  have hpos' : (0 : Rat) < (i.place d).2 := by exact_mod_cast hpos
  rw [div_le_iff₀ hden', ← mul_le_mul_iff_of_pos_right hpos', ← hplace]
  exact_mod_cast Iff.rfl

theorem bounds_of_contains {d : Decimal} (h : i.contains d = true) :
    (i.low : Rat) / i.den ≤ d.value ∧ d.value ≤ (i.high : Rat) / i.den := by
  rw [← le_place_iff hden, ← place_le_iff hden]
  unfold contains at h
  simp only at h
  split at h
  · simpa using h
  · simp only [Bool.and_eq_true, decide_eq_true_eq] at h
    exact ⟨Nat.le_of_lt h.left, Nat.le_of_lt h.right⟩

theorem outside_of_not_contains {d : Decimal} (h : i.contains d = false) :
    d.value ≤ (i.low : Rat) / i.den ∨ (i.high : Rat) / i.den ≤ d.value := by
  rw [← le_place_iff hden, ← place_le_iff hden]
  unfold contains at h
  simp only at h
  split at h
  · rw [Bool.and_eq_false_iff, decide_eq_false_iff_not,
      decide_eq_false_iff_not] at h
    lia
  · rw [Bool.and_eq_false_iff, decide_eq_false_iff_not,
      decide_eq_false_iff_not] at h
    lia

theorem contains_of_between {d : Decimal}
    (hlow : (i.low : Rat) / i.den < d.value)
    (hhigh : d.value < (i.high : Rat) / i.den) : i.contains d = true := by
  cases hcontains : i.contains d with
  | true => rfl
  | false =>
      rcases outside_of_not_contains hden hcontains with hunder | hover
      · exact absurd hunder (not_le_of_gt hlow)
      · exact absurd hover (not_le_of_gt hhigh)

end Comparisons

/-!
## Hits
-/

theorem floor_eq (i : Interval) (e : Int) :
    i.floor e = ⌊(i.value : Rat) / i.den / 10 ^ e⌋₊ := by
  have hten : ((10 : Nat) : Rat) = 10 := rfl
  unfold floor
  split
  · rename_i he
    rw [← Nat.floor_div_eq_div (K := Rat), Nat.cast_mul, natPow_eq_zpow 10 he,
      hten, div_div]
  · rename_i he
    rw [← Nat.floor_div_eq_div (K := Rat), Nat.cast_mul,
      natPow_eq_inv_zpow 10 (Int.lt_of_not_ge he), hten, ← div_eq_mul_inv,
      div_right_comm]

theorem floor_bounds (i : Interval) (e : Int) :
    Decimal.value ⟨i.floor e, e⟩ ≤ (i.value : Rat) / i.den ∧
      (i.value : Rat) / i.den < Decimal.value ⟨i.floor e + 1, e⟩ := by
  have hpower : (0 : Rat) < 10 ^ e := by positivity
  unfold Decimal.value
  rw [← le_div_iff₀ hpower, ← div_lt_iff₀ hpower, floor_eq]
  constructor
  · exact Nat.floor_le (by positivity)
  · push_cast
    exact Nat.lt_floor_add_one _

theorem contains_of_hit {tie : Tie} {e : Int} {d : Decimal}
    (h : i.hit? tie e = some d) : i.contains d = true := by
  unfold hit? at h
  simp only at h
  split at h
  · rename_i hlow hhigh
    split at h <;> cases h
    · exact hhigh
    · exact hlow
  · rename_i hlow _
    cases h
    exact hlow
  · rename_i _ hhigh
    cases h
    exact hhigh
  · cases h

theorem exponent_of_hit {tie : Tie} {e : Int} {d : Decimal}
    (h : i.hit? tie e = some d) : d.exponent = e := by
  unfold hit? at h
  simp only at h
  split at h
  · split at h <;> cases h <;> rfl
  · cases h
    rfl
  · cases h
    rfl
  · cases h

theorem exists_hit (hden : 0 < i.den)
    (hlow : (i.low : Rat) / i.den < (i.value : Rat) / i.den)
    (hhigh : (i.value : Rat) / i.den < (i.high : Rat) / i.den) {e : Int}
    (hwide : (i.low : Rat) / i.den + 10 ^ e < (i.high : Rat) / i.den)
    (tie : Tie) : exists d, i.hit? tie e = some d := by
  rcases floor_bounds i e with ⟨hbelow, habove⟩
  have hstep : Decimal.value ⟨i.floor e + 1, e⟩ =
      Decimal.value ⟨i.floor e, e⟩ + 10 ^ e := by
    unfold Decimal.value
    push_cast
    ring
  unfold hit?
  simp only
  split
  · exact ⟨_, rfl⟩
  · exact ⟨_, rfl⟩
  · exact ⟨_, rfl⟩
  · rename_i hmissesLow hmissesHigh
    rcases outside_of_not_contains hden hmissesLow with hunder | hover
    · rcases outside_of_not_contains hden hmissesHigh with hunder' | hover'
      · linarith
      · linarith
    · linarith

/-- The search ends in the interval if the last of its grids is hit, on
whichever grid that happens. -/
theorem contains_search {tie : Tie} {e : Int} {grids : Nat}
    (h : exists d, i.hit? tie (e - grids) = some d) :
    i.contains (i.search tie e (grids + 1)) = true := by
  induction grids generalizing e with
  | zero =>
      rcases h with ⟨d, hd⟩
      rw [Nat.cast_zero, sub_zero] at hd
      rw [search, hd]
      exact contains_of_hit hd
  | succ grids ih =>
      rw [search]
      cases hhit : i.hit? tie e with
      | none =>
          apply ih
          rw [Nat.cast_succ, add_comm, ← sub_sub] at h
          exact h
      | some d => exact contains_of_hit hhit

/-!
## Decades
-/

theorem zpow_le_zpow_of_ratio {a b : Rat} (ha : 0 < a) (hb : 1 ≤ b) {p q : Nat}
    (hp : p ≠ 0) (hpowers : a ^ p ≤ b ^ q) {k e : Int} (hk : 0 ≤ k)
    (hratio : q * k ≤ p * e) : a ^ k ≤ b ^ e := by
  have hb' : 0 < b := lt_of_lt_of_le one_pos hb
  refine le_of_pow_le_pow_left₀ hp (by positivity) ?_
  calc
    (a ^ k) ^ p = (a ^ p) ^ k := by
      rw [← zpow_natCast, ← zpow_natCast, ← zpow_mul, ← zpow_mul, mul_comm]
    _ ≤ (b ^ q) ^ k := zpow_le_zpow_left₀ hk (by positivity) hpowers
    _ = b ^ (q * k) := by rw [← zpow_natCast, ← zpow_mul]
    _ ≤ b ^ (p * e) := zpow_le_zpow_right₀ hb hratio
    _ = (b ^ e) ^ p := by rw [← zpow_natCast, ← zpow_mul, mul_comm]

/-- Thirty-one decimal digits are less than 103 binary ones, and twenty-eight
are more than 93. -/
theorem tenPower_le_twoPower {k e : Int} (hup : 103 * k ≤ 31 * e)
    (hdown : 93 * k ≤ 28 * e) : (10 : Rat) ^ k ≤ 2 ^ e := by
  rcases Int.le_total 0 k with hk | hk
  · exact zpow_le_zpow_of_ratio (p := 31) (q := 103) (by norm_num) (by norm_num)
      (by decide)
      (by norm_num) hk hup
  · rcases Int.le_total 0 e with he | he
    · calc (10 : Rat) ^ k ≤ 1 := zpow_le_one_of_nonpos₀ (by norm_num) hk
        _ ≤ 2 ^ e := one_le_zpow₀ (by norm_num) he
    · have hinverse : (2 : Rat) ^ (-e) ≤ 10 ^ (-k) :=
        zpow_le_zpow_of_ratio (p := 93) (q := 28) (by norm_num) (by norm_num)
          (by decide)
          (by norm_num) (by lia) (by push_cast; lia)
      rw [zpow_neg, zpow_neg] at hinverse
      exact (inv_le_inv₀ (by positivity) (by positivity)).mp hinverse

def reaches (i : Interval) (k : Int) : Bool :=
  if 0 ≤ k then i.den * Nat.pow 10 k.toNat ≤ i.value
  else i.den ≤ i.value * Nat.pow 10 k.natAbs

/-- The decade that the logarithms point to. -/
def guess (i : Interval) : Int :=
  ((i.value.log2 : Int) - i.den.log2) * 30103 / 100000

theorem decade_eq (i : Interval) :
    i.decade = if i.reaches (i.guess + 1) then i.guess + 1
      else if i.reaches i.guess then i.guess else i.guess - 1 :=
  rfl

theorem tenPower_le_of_reaches (hden : 0 < i.den) {k : Int}
    (h : i.reaches k = true) : (10 : Rat) ^ k ≤ (i.value : Rat) / i.den := by
  have hden' : (0 : Rat) < i.den := by exact_mod_cast hden
  have hten : ((10 : Nat) : Rat) = 10 := rfl
  rw [le_div_iff₀ hden', mul_comm]
  unfold reaches at h
  split at h
  · rename_i hk
    rw [decide_eq_true_eq, ← Nat.cast_le (α := Rat), Nat.cast_mul,
      natPow_eq_zpow 10 hk, hten] at h
    exact h
  · rename_i hk
    rw [decide_eq_true_eq, ← Nat.cast_le (α := Rat), Nat.cast_mul,
      natPow_eq_inv_zpow 10 (Int.lt_of_not_ge hk), hten, ← div_eq_mul_inv,
      le_div_iff₀ (by positivity)] at h
    exact h

theorem tenPower_decade_le (hvalue : 0 < i.value) (hden : 0 < i.den)
    (hlow : -2000 ≤ (i.value.log2 : Int) - i.den.log2)
    (hhigh : (i.value.log2 : Int) - i.den.log2 ≤ 2000) :
    (10 : Rat) ^ i.decade ≤ (i.value : Rat) / i.den := by
  rw [decade_eq]
  split
  · rename_i hreaches
    exact tenPower_le_of_reaches hden hreaches
  · split
    · rename_i hreaches
      exact tenPower_le_of_reaches hden hreaches
    · calc
        (10 : Rat) ^ (i.guess - 1) ≤
            2 ^ ((i.value.log2 : Int) - i.den.log2 - 1) := by
          unfold guess
          apply tenPower_le_twoPower <;> lia
        _ ≤ (i.value : Rat) / i.den := (log2_sub_bounds hvalue hden).left

end Interval

/-!
## The decimal of a number
-/

theorem significand_pos {x : Binary64} (hzero : x.isZero = false) :
    0 < x.significand := by
  unfold significand
  split
  · rename_i hexponent
    rcases Nat.eq_zero_or_pos x.fractionField with hfraction | hpos
    · unfold isZero at hzero
      rw [hexponent, hfraction] at hzero
      cases hzero
    · exact hpos
  · lia

theorem one_le_significand {x : Binary64} (hzero : x.isZero = false) :
    (1 : Rat) ≤ x.significand := by
  exact_mod_cast significand_pos hzero

theorem interval_den_pos (x : Binary64) : 0 < x.interval.den :=
  scale_pos Nat.one_pos _

theorem quarters_eq (x : Binary64) (n : Nat) :
    ((n * (scale 1 1 (x.power - 2)).1 : Nat) : Rat) / x.interval.den =
      n / 4 * 2 ^ x.power := by
  have hunit := scale_eq 1 1 (x.power - 2)
  rw [Nat.cast_one, div_one, one_mul] at hunit
  calc
    ((n * (scale 1 1 (x.power - 2)).1 : Nat) : Rat) / x.interval.den =
        n *
          (((scale 1 1 (x.power - 2)).1 : Rat) /
            (scale 1 1 (x.power - 2)).2) := by
      rw [Nat.cast_mul, mul_div_assoc]
      rfl
    _ = n / 4 * 2 ^ x.power := by
      rw [hunit, zpow_sub₀ (by norm_num)]
      ring

theorem interval_value_eq (x : Binary64) :
    (x.interval.value : Rat) / x.interval.den = value x := by
  show ((4 * x.significand * (scale 1 1 (x.power - 2)).1 : Nat) : Rat) /
        x.interval.den =
      value x
  rw [quarters_eq, value]
  push_cast
  ring

theorem interval_high_eq (x : Binary64) :
    (x.interval.high : Rat) / x.interval.den =
      (x.significand + 1 / 2) * 2 ^ x.power := by
  show (((4 * x.significand + 2) * (scale 1 1 (x.power - 2)).1 : Nat) : Rat) /
        x.interval.den =
      _
  rw [quarters_eq]
  push_cast
  ring

theorem lt_interval_high (x : Binary64) :
    value x < (x.interval.high : Rat) / x.interval.den := by
  have hpower : (0 : Rat) < 2 ^ x.power := by positivity
  rw [interval_high_eq, value]
  gcongr
  linarith

/-- The lower end is half a place below the number, or a quarter below a power
of two. -/
theorem interval_low_eq {x : Binary64} (hzero : x.isZero = false) :
    (x.interval.low : Rat) / x.interval.den =
      (x.significand - 1 / 2) * 2 ^ x.power ∨
      x.significand = 0x10000000000000 ∧
        (x.interval.low : Rat) / x.interval.den =
          (x.significand - 1 / 4) * 2 ^ x.power := by
  have hpos := significand_pos hzero
  by_cases hpowerOfTwo : x.fractionField = 0 ∧ 1 < x.exponentField
  · right
    have hsignificand : x.significand = 0x10000000000000 := by
      unfold significand
      rw [if_neg (by lia), hpowerOfTwo.left]
    have hlow : x.interval.low =
        (4 * x.significand - 1) * (scale 1 1 (x.power - 2)).1 := by
      unfold interval
      simp only [if_pos hpowerOfTwo]
    refine ⟨hsignificand, ?_⟩
    rw [hlow, quarters_eq, Nat.cast_sub (by lia)]
    push_cast
    ring
  · left
    have hlow : x.interval.low =
        (4 * x.significand - 2) * (scale 1 1 (x.power - 2)).1 := by
      unfold interval
      simp only [if_neg hpowerOfTwo]
    rw [hlow, quarters_eq, Nat.cast_sub (by lia)]
    push_cast
    ring

theorem interval_value_pos {x : Binary64} (hzero : x.isZero = false) :
    0 < x.interval.value := by
  have hunit : 0 < (scale 1 1 (x.power - 2)).1 := by
    unfold scale
    split
    · exact Nat.mul_pos Nat.one_pos (Nat.pow_pos (by decide))
    · exact Nat.one_pos
  exact Nat.mul_pos (Nat.mul_pos (by decide) (significand_pos hzero)) hunit

section Nonzero

variable {x : Binary64} (hfinite : x.isFinite = true) (hzero : x.isZero = false)

include hzero

theorem interval_low_lt :
    (x.interval.low : Rat) / x.interval.den < value x := by
  have hpower : (0 : Rat) < 2 ^ x.power := by positivity
  unfold value
  rcases interval_low_eq hzero with hlow | ⟨_, hlow⟩
  · rw [hlow]
    gcongr
    linarith
  · rw [hlow]
    gcongr
    linarith

theorem least_le_value : (2 : Rat) ^ (-1074 : Int) ≤ value x := by
  have hone := one_le_significand hzero
  have hpower : -1074 ≤ x.power := by
    unfold power
    lia
  unfold value
  calc
    (2 : Rat) ^ (-1074 : Int) ≤ 2 ^ x.power :=
      zpow_le_zpow_right₀ (by norm_num) hpower
    _ = 1 * 2 ^ x.power := (one_mul _).symm
    _ ≤ x.significand * 2 ^ x.power := by gcongr

include hfinite

theorem tenPower_decade_le_value :
    (10 : Rat) ^ x.interval.decade ≤ value x := by
  have hvalue := interval_value_pos hzero
  have hden := interval_den_pos x
  rcases log2_sub_bounds hvalue hden with ⟨hlow, hhigh⟩
  rw [interval_value_eq] at hlow hhigh
  have habove :
      (x.interval.value.log2 : Int) - x.interval.den.log2 - 1 < 1024 := by
    apply (zpow_lt_zpow_iff_right₀ (by norm_num : (1 : Rat) < 2)).mp
    calc
      (2 : Rat) ^ ((x.interval.value.log2 : Int) - x.interval.den.log2 - 1) ≤
          value x :=
        hlow
      _ < limit := value_lt_limit hfinite
      _ < 2 ^ (1024 : Int) := sub_lt_self _ (by positivity)
  have hbelow :
      -1074 < (x.interval.value.log2 : Int) - x.interval.den.log2 + 1 := by
    apply (zpow_lt_zpow_iff_right₀ (by norm_num : (1 : Rat) < 2)).mp
    exact lt_of_le_of_lt (least_le_value hzero) hhigh
  rw [← interval_value_eq]
  exact Interval.tenPower_decade_le hvalue hden (by lia) (by lia)

/-- The grid of seventeen digits is finer than the interval is wide. -/
theorem interval_wide :
    (x.interval.low : Rat) / x.interval.den + 10 ^ (x.interval.decade - 16) <
      (x.interval.high : Rat) / x.interval.den := by
  have hpower : (0 : Rat) < 2 ^ x.power := by positivity
  have hgrid : (10 : Rat) ^ (x.interval.decade - 16) ≤
      x.significand * 2 ^ x.power / 10 ^ 16 := by
    rw [zpow_sub₀ (by norm_num), zpow_ofNat]
    gcongr
    exact tenPower_decade_le_value hfinite hzero
  rw [interval_high_eq]
  rcases interval_low_eq hzero with hlow | ⟨hsignificand, hlow⟩
  · have hcast := cast_significand_le x
    rw [hlow]
    push_cast at hcast
    nlinarith
  · rw [hlow]
    rw [hsignificand] at hgrid ⊢
    push_cast at hgrid ⊢
    nlinarith

theorem contains_search (tie : Tie) :
    x.interval.contains (x.interval.search tie x.interval.decade 17) =
      true := by
  apply Interval.contains_search
  apply Interval.exists_hit (interval_den_pos x)
  · rw [interval_value_eq]
    exact interval_low_lt hzero
  · rw [interval_value_eq]
    exact lt_interval_high x
  · exact interval_wide hfinite hzero

/-- The decimal that is written is no more than half a unit of the last place
away. -/
theorem value_shortest_bounds (tie : Tie) :
    (x.significand - 1 / 2) * 2 ^ x.power ≤ (x.shortest tie).value ∧
      (x.shortest tie).value ≤ (x.significand + 1 / 2) * 2 ^ x.power := by
  have hpower : (0 : Rat) < 2 ^ x.power := by positivity
  have hbounds :=
    Interval.bounds_of_contains (interval_den_pos x)
      (contains_search hfinite hzero tie)
  rw [← Decimal.value_normalize, interval_high_eq] at hbounds
  refine ⟨le_trans ?_ hbounds.left, hbounds.right⟩
  rcases interval_low_eq hzero with hlow | ⟨_, hlow⟩
  · rw [hlow]
  · rw [hlow]
    gcongr
    norm_num

theorem coefficient_shortest_pos (tie : Tie) :
    0 < (x.shortest tie).coefficient := by
  have hpower : (0 : Rat) < 2 ^ x.power := by positivity
  have hone := one_le_significand hzero
  have hlow := (value_shortest_bounds hfinite hzero tie).left
  rcases Nat.eq_zero_or_pos (x.shortest tie).coefficient with hnone | hpos
  · rw [Decimal.value, hnone, Nat.cast_zero, zero_mul] at hlow
    nlinarith
  · exact hpos

end Nonzero

end Binary64
end Reshape
