import Reshape.Proofs.Number.Fraction
import Reshape.Proofs.Number.Range

/-!
# Decimals around a power of two

The decimal of a number below a power of two stays below it, and that of a
greater number is greater.  What the decimal of the power itself does has to be
seen from its digits.
-/

namespace Reshape
namespace Binary64

theorem twoPower_eq {p : Int} {b : Nat} (h : p ≤ b) :
    (2 : Rat) ^ b = ((2 ^ (b - p).toNat : Nat) : Rat) * 2 ^ p := by
  rw [Nat.cast_pow, Nat.cast_ofNat, zpow_toNat (by lia),
    ← zpow_add₀ (by norm_num), Int.sub_add_cancel, zpow_natCast]

section Nonzero

variable {x : Binary64} (hfinite : x.isFinite = true) (hzero : x.isZero = false)

include hfinite hzero

theorem value_shortest_lt_twoPower {b : Nat} (h : value x < 2 ^ b) (tie : Tie) :
    (x.shortest tie).value < 2 ^ b := by
  have hunit : (0 : Rat) < 2 ^ x.power := by positivity
  have hone := one_le_significand hzero
  have hpower : x.power < b := by
    apply (zpow_lt_zpow_iff_right₀ (by norm_num : (1 : Rat) < 2)).mp
    calc (2 : Rat) ^ x.power = 1 * 2 ^ x.power := (one_mul _).symm
      _ ≤ value x := by
        unfold value
        gcongr
      _ < 2 ^ b := h
      _ = 2 ^ (b : Int) := (zpow_natCast _ _).symm
  have hpowers := twoPower_eq (Int.le_of_lt hpower)
  rw [hpowers, value, mul_lt_mul_iff_of_pos_right hunit] at h
  have hsucc :
      ((x.significand + 1 : Nat) : Rat) ≤ (2 ^ (b - x.power).toNat : Nat) := by
    exact_mod_cast h
  rw [Nat.cast_succ] at hsucc
  rw [hpowers]
  calc
    (x.shortest tie).value ≤ (x.significand + 1 / 2) * 2 ^ x.power :=
      (value_shortest_bounds hfinite hzero tie).right
    _ < (x.significand + 1) * 2 ^ x.power := by
      gcongr
      norm_num
    _ ≤ (2 ^ (b - x.power).toNat : Nat) * 2 ^ x.power := by gcongr

theorem twoPower_lt_value_shortest {b : Nat} (hsignificand : 1 < x.significand)
    (h : 2 ^ b < value x) (tie : Tie) : 2 ^ b < (x.shortest tie).value := by
  have hunit : (0 : Rat) < 2 ^ x.power := by positivity
  refine lt_of_lt_of_le ?_ (value_shortest_bounds hfinite hzero tie).left
  rcases Int.lt_or_le b x.power with hlarger | hpower
  · have htwo : ((2 : Nat) : Rat) ≤ x.significand := by
      exact_mod_cast hsignificand
    rw [Nat.cast_ofNat] at htwo
    calc (2 : Rat) ^ b = 2 ^ (b : Int) := (zpow_natCast _ _).symm
      _ ≤ 2 ^
        x.power := zpow_le_zpow_right₀ (by norm_num) (Int.le_of_lt hlarger)
      _ < (x.significand - 1 / 2) * 2 ^ x.power := by
        apply lt_mul_of_one_lt_left hunit
        linarith
  · have hpowers := twoPower_eq hpower
    rw [hpowers, value, mul_lt_mul_iff_of_pos_right hunit] at h
    have hsucc :
        ((2 ^ (b - x.power).toNat + 1 : Nat) : Rat) ≤ x.significand := by
      exact_mod_cast h
    rw [Nat.cast_succ] at hsucc
    rw [hpowers]
    gcongr
    linarith

end Nonzero

/-!
## The powers themselves

A number with a whole significand is known from its value, so the decimal of a
power of two can be computed.
-/

theorem power_le_of_value_eq {x y : Binary64}
    (hy : 0x10000000000000 ≤ y.significand) (h : value x = value y) :
    y.power ≤ x.power := by
  by_contra hless
  have hunit : (0 : Rat) < 2 ^ x.power := by positivity
  have hx := cast_significand_le x
  have hy' : ((0x10000000000000 : Nat) : Rat) ≤ y.significand := by
    exact_mod_cast hy
  have hdouble : (2 : Rat) ^ x.power * 2 ≤ 2 ^ y.power := by
    rw [← zpow_add_one₀ (by norm_num)]
    exact zpow_le_zpow_right₀ (by norm_num) (by lia)
  have hgreater : value x < value y :=
    calc
      value x ≤ (0x1FFFFFFFFFFFFF : Nat) * 2 ^ x.power := by
        unfold value
        gcongr
      _ < (0x10000000000000 : Nat) * (2 ^ x.power * 2) := by
        rw [mul_comm (2 ^ x.power) (2 : Rat), ← mul_assoc]
        gcongr
        norm_num
      _ ≤ value y := by
        unfold value
        gcongr
  exact absurd h (ne_of_lt hgreater)

theorem shortest_eq_of_value_eq {x y : Binary64}
    (hx : 0x10000000000000 ≤ x.significand)
    (hy : 0x10000000000000 ≤ y.significand) (h : value x = value y)
    (tie : Tie) : x.shortest tie = y.shortest tie := by
  have hpower : x.power = y.power :=
    Int.le_antisymm (power_le_of_value_eq hx h.symm) (power_le_of_value_eq hy h)
  have hsignificand : x.significand = y.significand := by
    unfold value at h
    rw [hpower, mul_left_inj' (by positivity)] at h
    exact_mod_cast h
  have hxFraction : x.fractionField < 0x10000000000000 :=
    Nat.mod_lt _ (by decide)
  have hyFraction : y.fractionField < 0x10000000000000 :=
    Nat.mod_lt _ (by decide)
  unfold power at hpower
  unfold significand at hx hy hsignificand
  refine shortest_congr ?_ ?_ tie
  · split at hx <;> split at hy <;> lia
  · split at hsignificand <;> split at hsignificand <;> lia

theorem value_of_twoPower {x : Binary64} {b : Nat}
    (hsignificand : x.significand = 0x10000000000000)
    (hpower : x.power = b - 52) : value x = 2 ^ b := by
  have htop : ((0x10000000000000 : Nat) : Rat) = 2 ^ (52 : Int) := by norm_num
  rw [value, hsignificand, hpower, htop, ← zpow_add₀ (by norm_num),
    add_sub_cancel, zpow_natCast]

/-- The first numbers that no word holds, with a sign or without, are rounded up
in their decimals. -/
theorem wordLimit_lt_value_shortest {x : Binary64} (hfinite : x.isFinite = true)
    (hsignificand : 0x10000000000000 ≤ x.significand) {b : Nat}
    (hb : b = 63 ∨ b = 64) (h : 2 ^ b ≤ value x) :
    2 ^ b < (x.shortest .up).value := by
  have hzero := isZero_of_value_pos (lt_of_lt_of_le (by positivity) h)
  rcases lt_or_eq_of_le h with hlt | heq
  · exact twoPower_lt_value_shortest hfinite hzero
      (Nat.lt_of_lt_of_le (by decide) hsignificand)
      hlt .up
  · rcases hb with rfl | rfl
    · rw [shortest_eq_of_value_eq (y := ⟨0x43E0000000000000⟩) hsignificand
          (by decide)
          (heq.symm.trans (value_of_twoPower (by decide) (by decide)).symm),
        shortest_of_search (d := ⟨9223372036854776, 3⟩) (by decide +kernel)
          (by decide)]
      norm_num [Decimal.value]
    · rw [shortest_eq_of_value_eq (y := ⟨0x43F0000000000000⟩) hsignificand
          (by decide)
          (heq.symm.trans (value_of_twoPower (by decide) (by decide)).symm),
        shortest_of_search (d := ⟨18446744073709552, 3⟩) (by decide +kernel)
          (by decide)]
      norm_num [Decimal.value]

end Binary64
end Reshape
