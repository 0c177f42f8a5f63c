import Reshape.Json.Numeral
import Reshape.Proofs.Number.Rounding

/-!
# Scaling by powers of ten

The reader of a numeral scales its digits by a power of ten and rounds after
each step.  Down this never leaves the range.  Up it does not as long as the
decimal keeps some distance to the end of it, two roundings wide.
-/

namespace Reshape
namespace Binary64

/-!
## Products and quotients
-/

theorem value_nonneg (x : Binary64) : 0 ≤ value x := by
  unfold value
  positivity

theorem isFinite_mulMagnitude {x y : Binary64} (h : value x * value y < limit) :
    (x.mulMagnitude y).isFinite = true := by
  unfold mulMagnitude
  apply isFinite_ofQuotient (scale_pos Nat.one_pos _)
  rw [scale_eq, Nat.cast_mul, Nat.cast_one, div_one, zpow_add₀ (by norm_num)]
  calc
    (x.significand : Rat) * y.significand * (2 ^ x.power * 2 ^ y.power) =
        value x * value y := by
      unfold value
      ring
    _ < limit := h

theorem isFinite_divMagnitude {x y : Binary64} (hx : x.isFinite = true)
    (hy : 1 ≤ value y) : (x.divMagnitude y).isFinite = true := by
  have hpos : 0 < y.significand := by
    rcases Nat.eq_zero_or_pos y.significand with hzero | hpos
    · unfold value at hy
      rw [hzero, Nat.cast_zero, zero_mul] at hy
      exact absurd hy (by norm_num)
    · exact hpos
  unfold divMagnitude
  apply isFinite_ofQuotient (scale_pos hpos _)
  rw [scale_eq, zpow_sub₀ (by norm_num)]
  calc
    (x.significand : Rat) / y.significand * (2 ^ x.power / 2 ^ y.power) =
        value x / value y := by
      unfold value
      rw [div_mul_div_comm]
    _ ≤ value x := div_le_self (value_nonneg x) hy
    _ < limit := value_lt_limit hx

/-!
## Integers
-/

theorem natPow_lt_limit {k : Nat} (h : k ≤ 308) : (10 : Rat) ^ k < limit := by
  have hgreatest : 10 ^ 308 + 2 ^ 970 < 2 ^ 1024 := by decide +kernel
  have hcast : (10 : Rat) ^ 308 + 2 ^ 970 < 2 ^ 1024 := by
    exact_mod_cast hgreatest
  calc (10 : Rat) ^ k ≤ 10 ^ 308 := pow_le_pow_right₀ (by norm_num) h
    _ < 2 ^ 1024 - 2 ^ 970 := lt_sub_iff_add_lt.mpr hcast
    _ = limit := rfl

theorem limit_lt_natPow {k : Nat} (h : 308 < k) : limit < (10 : Rat) ^ k := by
  have hleast : 2 ^ 1024 < 10 ^ 309 := by decide +kernel
  have hcast : (2 : Rat) ^ 1024 < 10 ^ 309 := by exact_mod_cast hleast
  calc limit < 2 ^ (1024 : Int) := sub_lt_self _ (by positivity)
    _ = (2 : Rat) ^ 1024 := rfl
    _ < 10 ^ 309 := hcast
    _ ≤ 10 ^ k := pow_le_pow_right₀ (by norm_num) h

def slack : Rat :=
  1 + 2 ^ (-53 : Int)

theorem one_le_slack : 1 ≤ slack :=
  le_add_of_nonneg_right (by positivity)

theorem value_ofNat_le {n : Nat} (h : (n : Rat) < limit) :
    value (ofNat n) ≤ n * slack := by
  rcases Nat.eq_zero_or_pos n with rfl | hpos
  · rw [ofNat, (ofQuotient_zero 1).right, Nat.cast_zero, zero_mul]
  · have hone : 1 ≤ (n : Rat) / (1 : Nat) := by
      rw [Nat.cast_one, div_one]
      exact_mod_cast hpos
    have hlimit : (n : Rat) / (1 : Nat) < limit := by
      rw [Nat.cast_one, div_one]
      exact h
    have hvalue := value_ofQuotient_le Nat.one_pos hone hlimit
    rw [Nat.cast_one, div_one] at hvalue
    exact hvalue

theorem one_le_value_ofNat {n : Nat} (hpos : 0 < n) (h : (n : Rat) < limit) :
    1 ≤ value (ofNat n) := by
  apply one_le_value_ofQuotient Nat.one_pos
  · rw [Nat.cast_one, div_one]
    exact_mod_cast hpos
  · rw [Nat.cast_one, div_one]
    exact h

theorem isFinite_ofNat {n : Nat} (h : (n : Rat) < limit) :
    (ofNat n).isFinite = true := by
  apply isFinite_ofQuotient Nat.one_pos
  rw [Nat.cast_one, div_one]
  exact h

theorem one_le_value_tenPower {k : Nat} (h : k ≤ 308) :
    1 ≤ value (ofNat (Nat.pow 10 k)) := by
  apply one_le_value_ofNat (Nat.pow_pos (by decide))
  show ((Nat.pow 10 k : Nat) : Rat) < limit
  rw [cast_pow]
  exact natPow_lt_limit h

end Binary64

namespace Json
namespace Numeral

open Binary64

/-!
## Powers of ten
-/

theorem scaleByTen_of_neg {f : Binary64} (hf : f.isFinite = true) {e : Int}
    (he : e < 0) : exists x, scaleByTen f e = some x ∧ x.isFinite = true := by
  fun_induction scaleByTen f e with
  | case1 f e hsmall hnonneg => exact absurd he (Int.not_lt.mpr hnonneg)
  | case2 f e hsmall hneg =>
      exact ⟨_, rfl, isFinite_divMagnitude hf (one_le_value_tenPower hsmall)⟩
  | case3 f e hlarge hzero => exact ⟨f, rfl, hf⟩
  | case4 f e hlarge hzero hnonneg => exact absurd he (Int.not_lt.mpr hnonneg)
  | case5 f e hlarge hzero hneg ih =>
      apply ih (isFinite_divMagnitude hf _) (by lia)
      apply one_le_value_tenPower
      exact Nat.le_refl 308

theorem scaleByTen_of_nonneg {n : Nat} {e : Int} (he : 0 ≤ e)
    (h : (n : Rat) * 10 ^ e * slack ^ 2 < limit) :
    exists x, scaleByTen (.ofNat n) e = some x ∧ x.isFinite = true := by
  have hpower : (1 : Rat) ≤ 10 ^ e := one_le_zpow₀ (by norm_num) he
  have hslack := one_le_slack
  have hn : (n : Rat) < limit := by
    calc (n : Rat) = n * 1 * 1 := by ring
      _ ≤ n * 10 ^ e * slack ^ 2 := by
        gcongr
        exact one_le_pow₀ hslack
      _ < limit := h
  rw [scaleByTen]
  by_cases hsmall : e.natAbs ≤ 308
  · rw [if_pos hsmall, if_pos he]
    refine ⟨_, rfl, ?_⟩
    apply isFinite_mulMagnitude
    have hten : (10 : Rat) ^ e.toNat = 10 ^ e := zpow_toNat he
    have htenLimit : ((Nat.pow 10 e.toNat : Nat) : Rat) < limit := by
      rw [cast_pow]
      exact natPow_lt_limit (by lia)
    have hscale := value_ofNat_le htenLimit
    rw [cast_pow, Nat.cast_ofNat, hten] at hscale
    calc
      value (ofNat n) * value (ofNat (Nat.pow 10 e.toNat)) ≤
          n * slack * (10 ^ e * slack) := by
        gcongr
        · exact value_nonneg _
        · exact value_ofNat_le hn
      _ = n * 10 ^ e * slack ^ 2 := by ring
      _ < limit := h
  · rw [if_neg hsmall]
    rcases Nat.eq_zero_or_pos n with rfl | hpos
    · exact ⟨_, if_pos rfl, isFinite_ofNat hn⟩
    · have hlarge : limit < (n : Rat) * 10 ^ e * slack ^ 2 := by
        have hone : (1 : Rat) ≤ n := by exact_mod_cast hpos
        calc limit < (10 : Rat) ^ e.toNat := limit_lt_natPow (by lia)
          _ = 1 * 10 ^ e * 1 := by rw [zpow_toNat he]; ring
          _ ≤ n * 10 ^ e * slack ^ 2 := by
            gcongr
            exact one_le_pow₀ hslack
      exact absurd h (not_lt.mpr (le_of_lt hlarge))

end Numeral
end Json
end Reshape
