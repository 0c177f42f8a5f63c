import Mathlib.Algebra.Order.Field.Power
import Mathlib.Algebra.Order.Field.Rat
import Mathlib.Tactic.FieldSimp
import Mathlib.Tactic.Linarith
import Mathlib.Tactic.NormNum
import Mathlib.Tactic.Positivity
import Mathlib.Tactic.Ring
import Reshape.Number.Binary64

/-!
# How far rounding goes

A finite number stands for a fraction.  Rounding a quotient moves it by half a
unit of the last place at most, so the quotient has to come close to the end of
the range before the result is infinite.
-/

namespace Reshape
namespace Binary64

/-!
## Quotients
-/

theorem cast_pow (b k : Nat) : ((Nat.pow b k : Nat) : Rat) = (b : Rat) ^ k :=
  Nat.cast_pow b k

theorem zpow_toNat {b : Rat} {e : Int} (he : 0 ≤ e) : b ^ e.toNat = b ^ e := by
  rw [← zpow_natCast, Int.toNat_of_nonneg he]

theorem zpow_natAbs {b : Rat} {e : Int} (he : e < 0) :
    b ^ e.natAbs = (b ^ e)⁻¹ := by
  rw [← zpow_natCast, Int.ofNat_natAbs_of_nonpos (le_of_lt he), zpow_neg]

theorem scale_pos {num den : Nat} (hden : 0 < den) (e : Int) :
    0 < (scale num den e).2 := by
  unfold scale
  split
  · exact hden
  · exact Nat.mul_pos hden (Nat.pow_pos (by decide))

theorem scale_eq (num den : Nat) (e : Int) :
    ((scale num den e).1 : Rat) / (scale num den e).2 =
      (num : Rat) / den * 2 ^ e := by
  unfold scale
  split
  · rename_i he
    rw [Nat.cast_mul, cast_pow, Nat.cast_ofNat, zpow_toNat he]
    ring
  · rename_i he
    rw [Nat.cast_mul, cast_pow, Nat.cast_ofNat, zpow_natAbs (lt_of_not_ge he)]
    rw [div_mul_eq_div_div, div_inv_eq_mul]

theorem log2_bounds {n : Nat} (hn : 0 < n) :
    (2 : Rat) ^ (n.log2 : Int) ≤ n ∧ (n : Rat) < 2 ^ ((n.log2 : Int) + 1) := by
  constructor
  · rw [zpow_natCast]
    exact_mod_cast Nat.log2_self_le (Nat.ne_of_gt hn)
  · have hlt : n < 2 ^ (n.log2 + 1) := Nat.lt_log2_self
    rw [show (n.log2 : Int) + 1 = ((n.log2 + 1 : Nat) : Int) from rfl,
      zpow_natCast]
    exact_mod_cast hlt

theorem log2_sub_bounds {num den : Nat} (hnum : 0 < num) (hden : 0 < den) :
    (2 : Rat) ^ ((num.log2 : Int) - den.log2 - 1) ≤ (num : Rat) / den ∧
      (num : Rat) / den < 2 ^ ((num.log2 : Int) - den.log2 + 1) := by
  rcases log2_bounds hnum with ⟨hnumLow, hnumHigh⟩
  rcases log2_bounds hden with ⟨hdenLow, hdenHigh⟩
  have hpos : (0 : Rat) < den := by exact_mod_cast hden
  generalize hguess : (num.log2 : Int) - den.log2 = guess
  have hnumLog : (num.log2 : Int) = guess + den.log2 := by lia
  rw [hnumLog] at hnumLow hnumHigh
  constructor
  · rw [le_div_iff₀ hpos]
    calc
      (2 : Rat) ^ (guess - 1) * den ≤
          2 ^ (guess - 1) * 2 ^ ((den.log2 : Int) + 1) := by
        gcongr
      _ = 2 ^ (guess + (den.log2 : Int)) := by
        rw [← zpow_add₀ (by norm_num)]
        congr 1
        ring
      _ ≤ num := hnumLow
  · rw [div_lt_iff₀ hpos]
    calc (num : Rat) < 2 ^ (guess + (den.log2 : Int) + 1) := hnumHigh
      _ = 2 ^ (guess + 1) * 2 ^ (den.log2 : Int) := by
        rw [← zpow_add₀ (by norm_num)]
        congr 1
        ring
      _ ≤ 2 ^ (guess + 1) * den := by gcongr

/-- The first logarithm is right or one too large, and the comparison tells
which. -/
theorem log2Quotient_bounds {num den : Nat} (hnum : 0 < num) (hden : 0 < den) :
    (2 : Rat) ^ log2Quotient num den ≤ (num : Rat) / den ∧
      (num : Rat) / den < 2 ^ (log2Quotient num den + 1) := by
  rcases log2_sub_bounds hnum hden with ⟨hlow, hhigh⟩
  unfold log2Quotient
  generalize (num.log2 : Int) - den.log2 = guess at hlow hhigh ⊢
  have hscaled := scale_eq num den (-guess)
  have hscaledPos : (0 : Rat) < (scale num den (-guess)).2 := by
    exact_mod_cast scale_pos hden (-guess)
  have hreaches : (scale num den (-guess)).2 ≤ (scale num den (-guess)).1 <->
      (2 : Rat) ^ guess ≤ (num : Rat) / den := by
    rw [← Nat.cast_le (α := Rat), ← one_le_div hscaledPos, hscaled, zpow_neg,
      ← div_eq_mul_inv, one_le_div (by positivity)]
  simp only
  split
  · rename_i hguess
    exact ⟨hreaches.mp hguess, hhigh⟩
  · rename_i hguess
    rw [sub_add_cancel]
    exact ⟨hlow, lt_of_not_ge fun h => hguess (hreaches.mpr h)⟩

/-!
## Rounding to an integer
-/

theorem roundDiv_le (num : Nat) {den : Nat} (hden : 0 < den) :
    (roundDiv num den : Rat) ≤ (num : Rat) / den + 1 / 2 := by
  have hpos : (0 : Rat) < den := by exact_mod_cast hden
  have hround : 2 * (roundDiv num den * den) ≤ 2 * num + den := by
    have hdivision := Nat.div_add_mod num den
    have hlow := Nat.div_mul_le_self num den
    unfold roundDiv
    simp only
    split
    · lia
    · split
      · nlinarith
      · have hbit : num / den % 2 ≤ 1 := by lia
        nlinarith
  rw [div_add_div _ _ (ne_of_gt hpos) (by norm_num),
    le_div_iff₀ (by positivity)]
  have hcast : (2 : Rat) * (roundDiv num den * den) ≤ 2 * num + den := by
    exact_mod_cast hround
  linarith

theorem le_roundDiv {num den k : Nat} (hden : 0 < den)
    (h : (k : Rat) ≤ (num : Rat) / den) : k ≤ roundDiv num den := by
  have hpos : (0 : Rat) < den := by exact_mod_cast hden
  rw [le_div_iff₀ hpos] at h
  have hmul : k * den ≤ num := by exact_mod_cast h
  have hlow : k ≤ num / den := (Nat.le_div_iff_mul_le hden).mpr hmul
  unfold roundDiv
  simp only
  split
  · exact hlow
  · split <;> lia

theorem roundDiv_le_of_lt {num den k : Nat} (hden : 0 < den)
    (h : (num : Rat) / den < k + 1 / 2) : roundDiv num den ≤ k := by
  have hround := roundDiv_le num hden
  have hlt : (roundDiv num den : Rat) < ((k + 1 : Nat) : Rat) := by
    push_cast
    linarith
  exact Nat.le_of_lt_succ (by exact_mod_cast hlt)

/-!
## The fields of what is rounded
-/

def value (x : Binary64) : Rat :=
  x.significand * 2 ^ x.power

/-- The bits of a significand at a power.  A significand that reaches the next
power of two carries into the exponent. -/
theorem fields_of_bits {p r : Nat} (hr : r ≤ 0x20000000000000)
    (hnormal : r < 0x10000000000000 -> p = 0)
    (hfinite : p * 0x10000000000000 + r < 2047 * 0x10000000000000) :
    (Binary64.mk (UInt64.ofNat (p * 0x10000000000000 + r))).isFinite = true ∧
      value ⟨UInt64.ofNat (p * 0x10000000000000 + r)⟩ =
        r * (2 : Rat) ^ ((p : Int) - 1074) := by
  have hbits : (UInt64.ofNat (p * 0x10000000000000 + r)).toNat =
      p * 0x10000000000000 + r := by
    rw [UInt64.toNat_ofNat']
    exact Nat.mod_eq_of_lt (by lia)
  have hsmall : (p * 0x10000000000000 + r) / 0x10000000000000 % 0x800 =
      (p * 0x10000000000000 + r) / 0x10000000000000 := Nat.mod_eq_of_lt (by lia)
  unfold value significand power isFinite exponentField fractionField
  simp only [hbits, hsmall]
  constructor
  · rw [bne_iff_ne]
    lia
  · by_cases hsub : r < 0x10000000000000
    · have hp := hnormal hsub
      subst hp
      have hexponent : (0 * 0x10000000000000 + r) / 0x10000000000000 = 0 := by
        lia
      have hfraction : (0 * 0x10000000000000 + r) % 0x10000000000000 = r := by
        lia
      rw [hexponent, hfraction]
      rfl
    · by_cases hcarry : r = 0x20000000000000
      · subst hcarry
        have hexponent :
            (p * 0x10000000000000 + 0x20000000000000) / 0x10000000000000 =
              p + 2 := by
          lia
        have hfraction :
            (p * 0x10000000000000 + 0x20000000000000) % 0x10000000000000 =
              0 := by
          lia
        have hpower :
            ((max (p + 2) 1 : Nat) : Int) - 1075 = (p : Int) - 1074 + 1 := by
          lia
        rw [hexponent, hfraction, if_neg (by lia), hpower,
          zpow_add_one₀ (by norm_num)]
        push_cast
        ring
      · have hexponent :
            (p * 0x10000000000000 + r) / 0x10000000000000 = p + 1 := by
          lia
        have hfraction : (p * 0x10000000000000 + r) % 0x10000000000000 =
            r - 0x10000000000000 := by
          lia
        have hsignificand : 0x10000000000000 + (r - 0x10000000000000) = r := by
          lia
        have hpower :
            ((max (p + 1) 1 : Nat) : Int) - 1075 = (p : Int) - 1074 := by
          lia
        rw [hexponent, hfraction, if_neg (by lia), hsignificand, hpower]

/-- What a positive quotient is rounded to: a significand at a power of two. -/
structure Rounded (num den : Nat) (p : Int) (r : Nat) : Prop where
  bits : magnitudeBits num den =
    min ((p + 1074).toNat * 0x10000000000000 + r) (2047 * 0x10000000000000)
  power : p = max (log2Quotient num den - 52) (-1074)
  le : r ≤ 0x20000000000000
  normal : r < 0x10000000000000 -> p = -1074
  near : (r : Rat) ≤ (num : Rat) / den * 2 ^ (-p) + 1 / 2
  reaches : forall k : Nat, (k : Rat) ≤ (num : Rat) / den * 2 ^ (-p) -> k ≤ r
  stays : forall k : Nat, (num : Rat) / den * 2 ^ (-p) < k + 1 / 2 -> r ≤ k

theorem exists_rounded {num den : Nat} (hnum : 0 < num) (hden : 0 < den) :
    exists p r, Rounded num den p r := by
  have hpos : (0 : Rat) < den := by exact_mod_cast hden
  rcases log2Quotient_bounds hnum hden with ⟨hlow, hhigh⟩
  generalize hp : max (log2Quotient num den - 52) (-1074) = p
  have hscaled := scale_eq num den (-p)
  have hscaledPos : 0 < (scale num den (-p)).2 := scale_pos hden (-p)
  have hreaches : forall k : Nat, (k : Rat) ≤ (num : Rat) / den * 2 ^ (-p) ->
      k ≤ roundDiv (scale num den (-p)).1 (scale num den (-p)).2 := by
    intro k hk
    rw [← hscaled] at hk
    exact le_roundDiv hscaledPos hk
  have hstays : forall k : Nat, (num : Rat) / den * 2 ^ (-p) < k + 1 / 2 ->
      roundDiv (scale num den (-p)).1 (scale num den (-p)).2 ≤ k := by
    intro k hk
    rw [← hscaled] at hk
    exact roundDiv_le_of_lt hscaledPos hk
  refine ⟨p, roundDiv (scale num den (-p)).1 (scale num den (-p)).2, ?_,
    hp.symm, ?_, ?_, ?_, hreaches, hstays⟩
  · unfold magnitudeBits
    rw [if_neg (Nat.ne_of_gt hnum)]
    simp only [hp]
  · apply hstays
    calc
      (num : Rat) / den * 2 ^ (-p) <
          2 ^ (log2Quotient num den + 1) * 2 ^ (-p) := by
        gcongr
      _ = 2 ^ (log2Quotient num den + 1 - p) := by
        rw [← zpow_add₀ (by norm_num), ← sub_eq_add_neg]
      _ ≤ (2 : Rat) ^ (53 : Int) := zpow_le_zpow_right₀ (by norm_num) (by lia)
      _ ≤ ((0x20000000000000 : Nat) : Rat) + 1 / 2 := by norm_num
  · intro hsub
    by_contra hleast
    have hk : log2Quotient num den = p + 52 := by lia
    rw [hk] at hlow
    have hreached :
        ((0x10000000000000 : Nat) : Rat) ≤ (num : Rat) / den * 2 ^ (-p) := by
      calc
        ((0x10000000000000 : Nat) : Rat) = 2 ^ (p + 52) * 2 ^ (-p) := by
          rw [← zpow_add₀ (by norm_num), add_neg_cancel_comm]
          norm_num
        _ ≤ (num : Rat) / den * 2 ^ (-p) := by gcongr
    exact absurd (hreaches _ hreached) (Nat.not_le.mpr hsub)
  · rw [← hscaled]
    exact roundDiv_le _ hscaledPos

/-!
## Finite results
-/

/-- Half way between the greatest finite number and the next power of two. -/
def limit : Rat :=
  2 ^ (1024 : Int) - 2 ^ (970 : Int)

theorem bits_of_rounded {num den r : Nat} {p : Int} (h : Rounded num den p r)
    (hnum : 0 < num) (hden : 0 < den) (hlimit : (num : Rat) / den < limit) :
    (p + 1074).toNat * 0x10000000000000 + r < 2047 * 0x10000000000000 := by
  have hlow := (log2Quotient_bounds hnum hden).left
  have hpower := h.power
  have hle := h.le
  have hk : log2Quotient num den < 1024 := by
    apply (zpow_lt_zpow_iff_right₀ (by norm_num : (1 : Rat) < 2)).mp
    calc (2 : Rat) ^ log2Quotient num den ≤ (num : Rat) / den := hlow
      _ < limit := hlimit
      _ < 2 ^ (1024 : Int) := sub_lt_self _ (by positivity)
  by_cases hlast : p = 971
  · have hr : r ≤ 0x1FFFFFFFFFFFFF := by
      apply h.stays
      rw [hlast]
      calc
        (num : Rat) / den * 2 ^ (-971 : Int) < limit * 2 ^ (-971 : Int) := by
          gcongr
        _ = ((0x1FFFFFFFFFFFFF : Nat) : Rat) + 1 / 2 := by
          rw [limit, sub_mul, ← zpow_add₀ (by norm_num),
            ← zpow_add₀ (by norm_num)]
          norm_num
    rw [hlast]
    lia
  · lia

theorem ofQuotient_of_rounded {num den r : Nat} {p : Int}
    (h : Rounded num den p r) (hnum : 0 < num) (hden : 0 < den)
    (hlimit : (num : Rat) / den < limit) :
    (ofQuotient num den).isFinite = true ∧
      value (ofQuotient num den) = r * 2 ^ p := by
  have hbits := bits_of_rounded h hnum hden hlimit
  have hpower := h.power
  have hleast : (((p + 1074).toNat : Int)) - 1074 = p := by lia
  have hfields :=
    fields_of_bits h.le (fun hsub => by have := h.normal hsub; lia) hbits
  rw [hleast] at hfields
  unfold ofQuotient
  rw [h.bits, Nat.min_eq_left (Nat.le_of_lt hbits)]
  exact hfields

theorem ofQuotient_zero (den : Nat) :
    (ofQuotient 0 den).isFinite = true ∧ value (ofQuotient 0 den) = 0 := by
  have hzero :
      ofQuotient 0 den = ⟨UInt64.ofNat (0 * 0x10000000000000 + 0)⟩ := rfl
  rcases fields_of_bits (Nat.zero_le _) (fun _ => rfl) (by decide) with
    ⟨hfinite, hvalue⟩
  rw [hzero, hvalue]
  exact ⟨hfinite, zero_mul _⟩

theorem isFinite_ofQuotient {num den : Nat} (hden : 0 < den)
    (h : (num : Rat) / den < limit) : (ofQuotient num den).isFinite = true := by
  rcases Nat.eq_zero_or_pos num with rfl | hnum
  · exact (ofQuotient_zero den).left
  · rcases exists_rounded hnum hden with ⟨p, r, hrounded⟩
    exact (ofQuotient_of_rounded hrounded hnum hden h).left

section AtLeastOne

variable {num den : Nat} (hden : 0 < den) (hone : 1 ≤ (num : Rat) / den)

include hone

theorem pos_of_one_le : 0 < num := by
  rcases Nat.eq_zero_or_pos num with rfl | hnum
  · rw [Nat.cast_zero, zero_div] at hone
    exact absurd hone (by norm_num)
  · exact hnum

include hden

theorem log2Quotient_nonneg : 0 ≤ log2Quotient num den := by
  have hhigh := (log2Quotient_bounds (pos_of_one_le hone) hden).right
  have hpos : (0 : Int) < log2Quotient num den + 1 := by
    apply (zpow_lt_zpow_iff_right₀ (by norm_num : (1 : Rat) < 2)).mp
    rw [zpow_zero]
    exact lt_of_le_of_lt hone hhigh
  lia

theorem value_ofQuotient_le (h : (num : Rat) / den < limit) :
    value (ofQuotient num den) ≤ (num : Rat) / den * (1 + 2 ^ (-53 : Int)) := by
  have hnum := pos_of_one_le hone
  have hlog := log2Quotient_nonneg hden hone
  have hlow := (log2Quotient_bounds hnum hden).left
  rcases exists_rounded hnum hden with ⟨p, r, hrounded⟩
  have hp : p = log2Quotient num den + -52 := by
    have hpower := hrounded.power
    lia
  have hunit : (2 : Rat) ^ p ≤ (num : Rat) / den * 2 ^ (-52 : Int) := by
    rw [hp, zpow_add₀ (by norm_num)]
    gcongr
  rw [(ofQuotient_of_rounded hrounded hnum hden h).right]
  calc
    (r : Rat) * 2 ^ p ≤ ((num : Rat) / den * 2 ^ (-p) + 1 / 2) * 2 ^ p := by
      gcongr
      exact hrounded.near
    _ = (num : Rat) / den + 2 ^ p / 2 := by
      rw [add_mul, mul_assoc, ← zpow_add₀ (by norm_num), neg_add_cancel,
        zpow_zero]
      ring
    _ ≤ (num : Rat) / den + (num : Rat) / den * 2 ^ (-52 : Int) / 2 := by gcongr
    _ = (num : Rat) / den * (1 + 2 ^ (-53 : Int)) := by
      norm_num
      ring

theorem one_le_value_ofQuotient (h : (num : Rat) / den < limit) :
    1 ≤ value (ofQuotient num den) := by
  have hnum := pos_of_one_le hone
  rcases exists_rounded hnum hden with ⟨p, r, hrounded⟩
  rw [(ofQuotient_of_rounded hrounded hnum hden h).right]
  by_cases hp : p ≤ 0
  · have hreached : 2 ^ p.natAbs ≤ r := by
      apply hrounded.reaches
      rw [Nat.cast_pow, ← zpow_natCast, Int.ofNat_natAbs_of_nonpos hp,
        Nat.cast_ofNat]
      exact le_mul_of_one_le_left (by positivity) hone
    have hcast : (2 : Rat) ^ (-p) ≤ r := by
      rw [← Int.ofNat_natAbs_of_nonpos hp, zpow_natCast]
      exact_mod_cast hreached
    calc
      (1 : Rat) = 2 ^ (-p) * 2 ^ p := by
        rw [← zpow_add₀ (by norm_num), neg_add_cancel, zpow_zero]
      _ ≤ r * 2 ^ p := by gcongr
  · have hr : 1 ≤ r := by
      have hnormal := hrounded.normal
      lia
    have hpower : (1 : Rat) ≤ 2 ^ p := one_le_zpow₀ (by norm_num) (by lia)
    have hcast : (1 : Rat) ≤ r := by exact_mod_cast hr
    calc (1 : Rat) = 1 * 1 := (mul_one 1).symm
      _ ≤ r * 2 ^ p := by gcongr

end AtLeastOne

theorem significand_le (x : Binary64) : x.significand ≤ 0x1FFFFFFFFFFFFF := by
  have hfraction : x.fractionField < 0x10000000000000 :=
    Nat.mod_lt _ (by decide)
  unfold significand
  split <;> lia

theorem cast_significand_le (x : Binary64) :
    (x.significand : Rat) ≤ (0x1FFFFFFFFFFFFF : Nat) := by
  exact_mod_cast significand_le x

theorem power_le {x : Binary64} (h : x.isFinite = true) : x.power ≤ 971 := by
  have hexponent : x.exponentField < 0x800 := Nat.mod_lt _ (by decide)
  have hne : x.exponentField ≠ 2047 := by simpa [isFinite] using h
  unfold power
  lia

theorem value_lt_limit {x : Binary64} (h : x.isFinite = true) :
    value x < limit := by
  have hpower := power_le h
  have hcast := cast_significand_le x
  unfold value
  calc
    (x.significand : Rat) * 2 ^ x.power ≤
        ((0x1FFFFFFFFFFFFF : Nat) : Rat) * 2 ^ (971 : Int) := by
      gcongr
      norm_num
    _ < ((0x3FFFFFFFFFFFFF : Nat) : Rat) * 2 ^ (970 : Int) := by
      rw [show (971 : Int) = 970 + 1 from rfl, zpow_add_one₀ (by norm_num)]
      rw [mul_comm ((2 : Rat) ^ (970 : Int)), ← mul_assoc]
      gcongr
      norm_num
    _ = limit := by
      have hunits : (2 : Rat) ^ (54 : Int) = 0x40000000000000 := by norm_num
      rw [limit, show (1024 : Int) = 970 + 54 from rfl,
        zpow_add₀ (by norm_num), hunits]
      generalize (2 : Rat) ^ (970 : Int) = unit
      push_cast
      ring

end Binary64
end Reshape
