import Reshape.Proofs.Number.Scaling
import Reshape.Proofs.Number.Shortest

/-!
# The end of the range

Below the three greatest numbers a decimal keeps enough distance to the end of
the range to be rounded twice.  For these three the decimals are known.
-/

namespace Reshape
namespace Binary64

/-- A number with room above it for the errors of two roundings. -/
def Roomy (x : Binary64) : Prop :=
  x.significand ≤ 0x1FFFFFFFFFFFFC ∨ x.power ≤ 970

theorem limit_eq : limit = (0x3FFFFFFFFFFFFF : Nat) * 2 ^ (970 : Int) := by
  have hunits : (2 : Rat) ^ (54 : Int) = 0x40000000000000 := by norm_num
  rw [limit, show (1024 : Int) = 970 + 54 from rfl,
    zpow_add₀ (by norm_num), hunits]
  generalize (2 : Rat) ^ (970 : Int) = unit
  push_cast
  ring

theorem zpow_971 : (2 : Rat) ^ (971 : Int) = 2 ^ (970 : Int) * 2 :=
  zpow_add_one₀ (by norm_num) 970

theorem upper_end_le {x : Binary64} (hfinite : x.isFinite = true)
    (hroomy : x.Roomy) :
    ((x.significand : Rat) + 1 / 2) * 2 ^ x.power ≤
      (0x3FFFFFFFFFFFF9 : Nat) * 2 ^ (970 : Int) := by
  rcases hroomy with hsignificand | hpower
  · have hcast : (x.significand : Rat) ≤ (0x1FFFFFFFFFFFFC : Nat) := by
      exact_mod_cast hsignificand
    have hpower : (2 : Rat) ^ x.power ≤ 2 ^ (971 : Int) :=
      zpow_le_zpow_right₀ (by norm_num) (power_le hfinite)
    rw [zpow_971] at hpower
    generalize (2 : Rat) ^ (970 : Int) = unit at hpower ⊢
    calc
      ((x.significand : Rat) + 1 / 2) * 2 ^ x.power ≤
          ((0x1FFFFFFFFFFFFC : Nat) + 1 / 2) * (unit * 2) := by
        gcongr
      _ = (0x3FFFFFFFFFFFF9 : Nat) * unit := by
        push_cast
        ring
  · have hcast := cast_significand_le x
    have hpower : (2 : Rat) ^ x.power ≤ 2 ^ (970 : Int) :=
      zpow_le_zpow_right₀ (by norm_num) hpower
    have hpos : (0 : Rat) < 2 ^ x.power := by positivity
    generalize (2 : Rat) ^ (970 : Int) = unit at hpower ⊢
    calc
      ((x.significand : Rat) + 1 / 2) * 2 ^ x.power ≤
          ((0x1FFFFFFFFFFFFF : Nat) + 1 / 2) * unit := by
        gcongr
      _ ≤ (0x3FFFFFFFFFFFF9 : Nat) * unit := by
        gcongr
        · exact le_trans (le_of_lt hpos) hpower
        · norm_num

theorem value_shortest_lt {x : Binary64} (hfinite : x.isFinite = true)
    (hzero : x.isZero = false) (hroomy : x.Roomy) (tie : Tie) :
    (x.shortest tie).value * slack ^ 2 < limit := by
  have hslack : ((0x3FFFFFFFFFFFF9 : Nat) : Rat) * slack ^ 2 <
      (0x3FFFFFFFFFFFFF : Nat) := by
    unfold slack
    norm_num
  have hpos : (0 : Rat) < 2 ^ (970 : Int) := by positivity
  have hend := upper_end_le hfinite hroomy
  rw [limit_eq]
  generalize (2 : Rat) ^ (970 : Int) = unit at hpos hend ⊢
  calc
    (x.shortest tie).value * slack ^ 2 ≤
        (x.significand + 1 / 2) * 2 ^ x.power * slack ^ 2 := by
      gcongr
      exact (value_shortest_bounds hfinite hzero tie).right
    _ ≤ (0x3FFFFFFFFFFFF9 : Nat) * unit * slack ^ 2 := by gcongr
    _ = (0x3FFFFFFFFFFFF9 : Nat) * slack ^ 2 * unit := by ring
    _ < (0x3FFFFFFFFFFFFF : Nat) * unit := by gcongr

/-!
## The greatest numbers
-/

def greatest : List Nat :=
  [17976931348623157, 17976931348623155, 17976931348623153]

theorem shortest_congr {x y : Binary64}
    (hexponent : x.exponentField = y.exponentField)
    (hfraction : x.fractionField = y.fractionField) (tie : Tie) :
    x.shortest tie = y.shortest tie := by
  have hinterval : x.interval = y.interval := by
    unfold interval significand power
    rw [hexponent, hfraction]
  unfold shortest
  rw [hinterval]

theorem shortest_of_search {x : Binary64} {tie : Tie} {d : Decimal}
    (h : x.interval.search tie x.interval.decade 17 = d)
    (hlast : d.coefficient % 10 ≠ 0) : x.shortest tie = d := by
  unfold shortest
  simp only
  rw [h, Decimal.normalize, dif_neg fun hzeros => hlast hzeros.right]

theorem shortest_of_not_roomy {x : Binary64} (hfinite : x.isFinite = true)
    (h : Not x.Roomy) :
    exists c, c ∈ greatest ∧ x.shortest .toEven = ⟨c, 292⟩ := by
  have hpower := power_le hfinite
  have hsignificand := significand_le x
  unfold Roomy at h
  rw [not_or, Nat.not_le, Int.not_le] at h
  rcases h with ⟨hlarge, hhigh⟩
  have hexponent : x.exponentField = 2046 := by
    unfold power at hpower hhigh
    lia
  have hfraction : 0x10000000000000 + x.fractionField = x.significand := by
    unfold significand
    rw [hexponent]
    rfl
  have hcases : x.fractionField = 0xFFFFFFFFFFFFF ∨
      x.fractionField = 0xFFFFFFFFFFFFE ∨
      x.fractionField = 0xFFFFFFFFFFFFD := by
    lia
  rcases hcases with hlast | hlast | hlast
  · refine ⟨17976931348623157, by decide, ?_⟩
    rw [shortest_congr (y := ⟨0x7FEFFFFFFFFFFFFF⟩) hexponent hlast]
    exact shortest_of_search (by decide +kernel) (by decide)
  · refine ⟨17976931348623155, by decide, ?_⟩
    rw [shortest_congr (y := ⟨0x7FEFFFFFFFFFFFFE⟩) hexponent hlast]
    exact shortest_of_search (by decide +kernel) (by decide)
  · refine ⟨17976931348623153, by decide, ?_⟩
    rw [shortest_congr (y := ⟨0x7FEFFFFFFFFFFFFD⟩) hexponent hlast]
    exact shortest_of_search (by decide +kernel) (by decide)

theorem scaleByTen_of_greatest {c : Nat} (h : c ∈ greatest) {e : Int}
    (he : e = 292) :
    exists y, Json.Numeral.scaleByTen (.ofNat c) e = some y ∧
      y.isFinite = true := by
  have hall : forall c, c ∈ greatest ->
      ((ofNat c).mulMagnitude
          (.ofNat (Nat.pow 10 (292 : Int).toNat))).isFinite =
        true := by
    decide +kernel
  subst he
  rw [Json.Numeral.scaleByTen, if_pos (by decide), if_pos (by decide)]
  exact ⟨_, rfl, hall c h⟩

end Binary64
end Reshape
