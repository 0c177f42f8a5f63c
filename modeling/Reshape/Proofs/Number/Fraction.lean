import Reshape.Number.Notation
import Reshape.Proofs.Number.Shortest

/-!
# Numbers with a fraction

The shortest decimal of a number has a fraction iff the number has one.  A
decimal close to a number with a fraction is no integer, because the integers
are numbers of the same precision; and in the search for the decimal of an
integer the grids below the units hit nothing but the integer itself.
-/

namespace Reshape
namespace Binary64

/-!
## Natural numbers among the fractions
-/

def Natural (q : Rat) : Prop :=
  exists n : Nat, q = n

theorem natural_mul_zpow (n b : Nat) {e : Int} (he : 0 ≤ e) :
    Natural ((n : Rat) * (b : Rat) ^ e) := by
  refine ⟨n * b ^ e.toNat, ?_⟩
  rw [Nat.cast_mul, Nat.cast_pow, zpow_toNat he]

theorem natural_mul_zpow_iff_dvd (n : Nat) {b : Nat} (hb : 0 < b) {e : Int}
    (he : e < 0) :
    Natural ((n : Rat) * (b : Rat) ^ e) <-> b ^ e.natAbs ∣ n := by
  have hpos : (0 : Rat) < ((b ^ e.natAbs : Nat) : Rat) := by
    exact_mod_cast Nat.pow_pos hb
  have hpower : (b : Rat) ^ e = ((b ^ e.natAbs : Nat) : Rat)⁻¹ := by
    rw [Nat.cast_pow, zpow_natAbs he, inv_inv]
  rw [hpower, ← div_eq_mul_inv]
  constructor
  · rintro ⟨k, hk⟩
    rw [div_eq_iff (ne_of_gt hpos)] at hk
    exact ⟨k, by rw [Nat.mul_comm]; exact_mod_cast hk⟩
  · rintro ⟨k, rfl⟩
    refine ⟨k, ?_⟩
    rw [Nat.cast_mul, mul_div_cancel_left₀ _ (ne_of_gt hpos)]

theorem isIntegral_iff (x : Binary64) :
    x.isIntegral = true <-> Natural (value x) := by
  have htwo : value x = x.significand * ((2 : Nat) : Rat) ^ x.power := rfl
  unfold isIntegral
  rw [htwo, Bool.or_eq_true, decide_eq_true_eq, beq_iff_eq]
  rcases Int.lt_or_le x.power 0 with hneg | hnonneg
  · rw [natural_mul_zpow_iff_dvd _ (by decide) hneg, Nat.dvd_iff_mod_eq_zero]
    exact or_iff_right (Int.not_le.mpr hneg)
  · exact iff_of_true (.inl hnonneg) (natural_mul_zpow _ 2 hnonneg)

theorem value_of_isZero {x : Binary64} (hzero : x.isZero = true) :
    value x = 0 := by
  unfold isZero at hzero
  rw [Bool.and_eq_true, beq_iff_eq, beq_iff_eq] at hzero
  have hsignificand : x.significand = 0 := by
    unfold significand
    rw [if_pos hzero.left, hzero.right]
  rw [value, hsignificand, Nat.cast_zero, zero_mul]

theorem isZero_of_value_pos {x : Binary64} (h : 0 < value x) :
    x.isZero = false := by
  cases hzero : x.isZero with
  | false => rfl
  | true =>
      rw [value_of_isZero hzero] at h
      exact absurd h (lt_irrefl 0)

/-- From two to the fifty-third on there is no place below the units left. -/
theorem power_nonneg_of_le {x : Binary64} (h : 0x20000000000000 ≤ value x) :
    0 ≤ x.power := by
  by_contra hneg
  have hcast := cast_significand_le x
  have hsmall : value x ≤ (0x1FFFFFFFFFFFFF : Nat) := by
    calc
      value x ≤ x.significand * 1 := by
        unfold value
        gcongr
        exact zpow_le_one_of_nonpos₀ (by norm_num)
          (Int.le_of_lt (Int.lt_of_not_ge hneg))
      _ ≤ (0x1FFFFFFFFFFFFF : Nat) := by rwa [mul_one]
  push_cast at hsmall
  linarith

theorem isIntegral_of_power_nonneg {x : Binary64} (h : 0 ≤ x.power) :
    x.isIntegral = true :=
  (isIntegral_iff x).mpr (natural_mul_zpow _ 2 h)

/-!
## Decimals
-/

namespace Decimal

theorem normalize_last (d : Decimal) :
    d.normalize.coefficient ≠ 0 -> d.normalize.coefficient % 10 ≠ 0 := by
  fun_induction normalize d with
  | case1 d h ih => exact ih
  | case2 d h => exact fun hcoefficient hlast => h ⟨hcoefficient, hlast⟩

theorem natural_value_iff {d : Decimal} (hlast : d.coefficient % 10 ≠ 0) :
    Natural d.value <-> 0 ≤ d.exponent := by
  have hten : d.value = d.coefficient * ((10 : Nat) : Rat) ^ d.exponent := rfl
  rw [hten]
  rcases Int.lt_or_le d.exponent 0 with hneg | hnonneg
  · refine iff_of_false ?_ (Int.not_le.mpr hneg)
    rw [natural_mul_zpow_iff_dvd _ (by decide) hneg]
    intro hdvd
    apply hlast
    apply Nat.mod_eq_zero_of_dvd
    exact Nat.dvd_trans (dvd_pow_self 10 (by lia)) hdvd
  · exact iff_of_true (natural_mul_zpow _ 10 hnonneg) hnonneg

end Decimal

/-!
## The search for an integer
-/

namespace Interval

variable {i : Interval}

theorem prefersUpper_of_exact (hden : 0 < i.den) {d : Decimal}
    (h : d.value = (i.value : Rat) / i.den) (tie : Tie) :
    i.prefersUpper tie d = false := by
  have hden' : (0 : Rat) < i.den := by exact_mod_cast hden
  rcases place_eq i d with ⟨hpos, hbelow⟩
  have habove := (place_eq i ⟨d.coefficient + 1, d.exponent⟩).right
  have hupper : d.value < Decimal.value ⟨d.coefficient + 1, d.exponent⟩ := by
    unfold Decimal.value
    gcongr
    exact Nat.lt_succ_self _
  have hcloser : 2 * i.value * (i.place d).2 <
      (i.place d).1 + (i.place ⟨d.coefficient + 1, d.exponent⟩).1 := by
    have hpos' : (0 : Rat) < (i.place d).2 := by exact_mod_cast hpos
    rw [eq_div_iff (ne_of_gt hden')] at h
    rw [place_snd_eq i _ d.coefficient] at habove
    rw [← Nat.cast_lt (α := Rat), Nat.cast_add, hbelow, habove]
    push_cast
    calc
      (2 : Rat) * i.value * (i.place d).2 =
          d.value * i.den * (i.place d).2 + d.value * i.den *
            (i.place d).2 := by
        rw [h]
        ring
      _ < d.value * i.den * (i.place d).2 +
          Decimal.value ⟨d.coefficient + 1, d.exponent⟩ * i.den *
              (i.place d).2 := by
            gcongr
  unfold prefersUpper
  simp only
  rw [if_pos hcloser]

section Whole

variable (hnatural : Natural ((i.value : Rat) / i.den))

include hnatural

theorem value_floor_of_neg {e : Int} (he : e < 0) :
    Decimal.value ⟨i.floor e, e⟩ = (i.value : Rat) / i.den := by
  rcases hnatural with ⟨n, hn⟩
  have hgrid : (n : Rat) / 10 ^ e = ((n * 10 ^ e.natAbs : Nat) : Rat) := by
    rw [Nat.cast_mul, Nat.cast_pow, Nat.cast_ofNat, zpow_natAbs he,
      div_eq_mul_inv]
  unfold Decimal.value
  rw [floor_eq, hn, hgrid, Nat.floor_natCast, ← hgrid,
    div_mul_cancel₀ _ (by positivity)]

theorem natural_floor (e : Int) : Natural (Decimal.value ⟨i.floor e, e⟩) := by
  rcases Int.lt_or_le e 0 with hneg | hnonneg
  · rw [value_floor_of_neg hnatural hneg]
    exact hnatural
  · exact natural_mul_zpow _ 10 hnonneg

end Whole

section Inside

variable (hden : 0 < i.den)
  (hlow : (i.low : Rat) / i.den < (i.value : Rat) / i.den)
  (hhigh : (i.value : Rat) / i.den < (i.high : Rat) / i.den)

include hden hlow hhigh

theorem hit_of_exact {e : Int}
    (h : Decimal.value ⟨i.floor e, e⟩ = (i.value : Rat) / i.den) (tie : Tie) :
    i.hit? tie e = some ⟨i.floor e, e⟩ := by
  have hcontains : i.contains ⟨i.floor e, e⟩ = true :=
    contains_of_between hden (by rwa [h]) (by rwa [h])
  unfold hit?
  simp only [hcontains, prefersUpper_of_exact hden h]
  split
  · rfl
  · rfl
  · contradiction
  · contradiction

variable (hnatural : Natural ((i.value : Rat) / i.den))

include hnatural

theorem natural_of_hit {tie : Tie} {e : Int} {d : Decimal}
    (h : i.hit? tie e = some d) : Natural d.value := by
  rcases Int.lt_or_le e 0 with hneg | hnonneg
  · rw [hit_of_exact hden hlow hhigh (value_floor_of_neg hnatural hneg)] at h
    cases h
    exact natural_floor hnatural e
  · unfold Decimal.value
    rw [exponent_of_hit h]
    exact natural_mul_zpow _ 10 hnonneg

/-- Whichever grid the search ends on, it ends on an integer. -/
theorem natural_search (tie : Tie) (e : Int) (grids : Nat) :
    Natural (i.search tie e grids).value := by
  induction grids generalizing e with
  | zero => exact natural_floor hnatural e
  | succ grids ih =>
      rw [search]
      cases hhit : i.hit? tie e with
      | none => exact ih (e - 1)
      | some d => exact natural_of_hit hden hlow hhigh hnatural hhit

end Inside

end Interval

/-!
## The fraction of a number
-/

section Finite

variable {x : Binary64} (hfinite : x.isFinite = true)

include hfinite

theorem natural_of_natural_shortest (hzero : x.isZero = false) {tie : Tie}
    (h : Natural (x.shortest tie).value) : Natural (value x) := by
  rcases Int.lt_or_le x.power 0 with hneg | hnonneg
  · -- Counted in units of the last place, the integer is within a half of the
    -- significand.
    rcases h with ⟨n, hn⟩
    have hpower : (0 : Rat) < 2 ^ x.power := by positivity
    have hplaces :
        (n : Rat) = ((n * 2 ^ x.power.natAbs : Nat) : Rat) * 2 ^ x.power := by
      rw [Nat.cast_mul, Nat.cast_pow, Nat.cast_ofNat, zpow_natAbs hneg,
        mul_assoc, inv_mul_cancel₀ (ne_of_gt hpower), mul_one]
    rcases value_shortest_bounds hfinite hzero tie with ⟨hlow, hhigh⟩
    rw [hn, hplaces, mul_le_mul_iff_of_pos_right hpower] at hlow hhigh
    have hsignificand : n * 2 ^ x.power.natAbs = x.significand := by
      apply Nat.le_antisymm
      · have hlt : ((n * 2 ^ x.power.natAbs : Nat) : Rat) <
            (x.significand + 1 : Nat) := by
          rw [Nat.cast_succ]
          linarith
        exact Nat.le_of_lt_succ (by exact_mod_cast hlt)
      · have hlt :
            (x.significand : Rat) < (n * 2 ^ x.power.natAbs + 1 : Nat) := by
          rw [Nat.cast_succ]
          linarith
        exact Nat.le_of_lt_succ (by exact_mod_cast hlt)
    refine ⟨n, ?_⟩
    rw [value, ← hsignificand, ← hplaces]
  · exact natural_mul_zpow _ 2 hnonneg

theorem natural_shortest_iff (hzero : x.isZero = false) (tie : Tie) :
    Natural (x.shortest tie).value <-> x.isIntegral = true := by
  rw [isIntegral_iff]
  constructor
  · exact natural_of_natural_shortest hfinite hzero
  · intro h
    unfold shortest
    simp only
    rw [Decimal.value_normalize]
    have hvalue := interval_value_eq x
    apply Interval.natural_search (interval_den_pos x)
    · rw [hvalue]
      exact interval_low_lt hzero
    · rw [hvalue]
      exact lt_interval_high x
    · rwa [hvalue]

theorem shortest_exponent_nonneg_iff (hzero : x.isZero = false) (tie : Tie) :
    0 ≤ (x.shortest tie).exponent <-> x.isIntegral = true := by
  rw [← natural_shortest_iff hfinite hzero tie]
  refine (Decimal.natural_value_iff ?_).symm
  apply Decimal.normalize_last
  exact Nat.ne_of_gt (coefficient_shortest_pos hfinite hzero tie)

end Finite

/-!
## Its digits
-/

theorem Decimal.fraction_spread_eq_nil_iff (d : Decimal) :
    d.spread.fraction = [] <-> 0 ≤ d.exponent := by
  have hlength : 0 < (Nat.toDigits 10 d.coefficient).length :=
    Nat.length_toDigits_pos
  unfold spread Spread.fraction
  simp only
  split
  · refine iff_of_false ?_ (by lia)
    intro hnil
    have hdigits := (List.append_eq_nil_iff.mp hnil).right
    rw [hdigits] at hlength
    exact Nat.lt_irrefl 0 hlength
  · rw [List.drop_eq_nil_iff]
    lia

theorem fraction_spread_eq_nil_iff {x : Binary64} (hfinite : x.isFinite = true)
    (tie : Tie) : (x.spread tie).fraction = [] <-> x.isIntegral = true := by
  unfold spread
  cases hzero : x.isZero with
  | true =>
      refine iff_of_true rfl ?_
      rw [isIntegral_iff, value_of_isZero hzero]
      exact ⟨0, rfl⟩
  | false =>
      rw [← shortest_exponent_nonneg_iff hfinite hzero tie]
      exact Decimal.fraction_spread_eq_nil_iff _

theorem toDigits_mul_ten_pow {n : Nat} (hn : 0 < n) (k : Nat) :
    Nat.toDigits 10 (n * 10 ^ k) =
      Nat.toDigits 10 n ++ List.replicate k '0' := by
  induction k with
  | zero => simp
  | succ k ih =>
      have hpos : 0 < n * 10 ^ k := Nat.mul_pos hn (Nat.pow_pos (by decide))
      have happend :=
        Nat.toDigits_append_toDigits (b := 10) (d := 0) (by decide) hpos
          (by decide)
      rw [Nat.pow_succ, ← Nat.mul_assoc, Nat.mul_comm _ 10,
        ← Nat.add_zero (10 * _), ← happend, ih, List.append_assoc,
        List.replicate_succ']
      rfl

theorem Decimal.whole_spread {d : Decimal} (hpos : 0 < d.coefficient)
    (hexponent : 0 ≤ d.exponent) :
    d.spread.whole =
      Nat.toDigits 10 (d.coefficient * 10 ^ d.exponent.toNat) := by
  have hlength : 0 < (Nat.toDigits 10 d.coefficient).length :=
    Nat.length_toDigits_pos
  have hcount :
      (d.exponent + (Nat.toDigits 10 d.coefficient).length - 1).toNat + 1 =
        (Nat.toDigits 10 d.coefficient).length + d.exponent.toNat := by
    lia
  unfold spread Spread.whole
  simp only
  rw [if_neg (by lia), hcount, toDigits_mul_ten_pow hpos,
    Nat.add_sub_cancel_left, List.take_of_length_le (Nat.le_add_right _ _)]

theorem isShortInteger_iff (x : Binary64) :
    x.isShortInteger = true <-> x.isIntegral = true ∧ value x < 10 ^ 16 := by
  have hscaled := scale_eq x.significand 1 x.power
  have hpos : (0 : Rat) < (scale x.significand 1 x.power).2 := by
    exact_mod_cast scale_pos Nat.one_pos x.power
  have hbound : ((10 : Rat) ^ 16) = (10000000000000000 : Nat) := by norm_num
  rw [Nat.cast_one, div_one] at hscaled
  unfold isShortInteger
  simp only
  rw [Bool.and_eq_true, decide_eq_true_eq, value, ← hscaled, hbound,
    div_lt_iff₀ hpos]
  exact_mod_cast Iff.rfl

end Binary64
end Reshape
