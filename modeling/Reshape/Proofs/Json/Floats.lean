import Reshape.Number.Notation
import Reshape.Proofs.Json.Numerals
import Reshape.Proofs.Number.Range

/-!
# Floats in JSON

A finite number is written as a numeral, and the numeral stands for a finite
number again.  It need not be the same one, because the reader rounds more than
once, but even at the end of the range it does not leave it.
-/

namespace Reshape
namespace Json
namespace Numeral

open Binary64

/-!
## Digits of a significand
-/

theorem le_ofDigitChars (ds : List Char) (n : Nat) :
    n * 10 ^ ds.length ≤ Nat.ofDigitChars 10 ds n := by
  rw [Nat.ofDigitChars_eq_ofDigitChars_zero, Nat.mul_comm]
  exact Nat.le_add_right _ _

theorem ofDigitChars_lt {ds : List Char}
    (hds : forall c, c ∈ ds -> c.isDigit = true) :
    Nat.ofDigitChars 10 ds 0 < 10 ^ ds.length := by
  induction ds with
  | nil => decide
  | cons d ds ih =>
      have hrest := ih fun c hc => hds c (List.mem_cons_of_mem d hc)
      have hdigit : d.toNat - '0'.toNat ≤ 9 := by
        have hd := Char.isDigit_iff_toNat.mp (hds d List.mem_cons_self)
        have hzero : '0'.toNat = 48 := rfl
        lia
      rw [Nat.ofDigitChars_cons, Nat.ofDigitChars_eq_ofDigitChars_zero,
        List.length_cons, Nat.pow_succ]
      calc
        10 ^ ds.length * (10 * 0 + (d.toNat - '0'.toNat)) +
              Nat.ofDigitChars 10 ds 0 <
            10 ^ ds.length * 9 + 10 ^ ds.length := by
          apply Nat.add_lt_add_of_le_of_lt _ hrest
          exact Nat.mul_le_mul_left _ (by lia)
        _ = 10 ^ ds.length * 10 := by ring

theorem exists_gathered {n : Nat} (hn : n < 0x10000000000000000)
    (ds : List Char) :
    exists taken ignored, ds = taken ++ ignored ∧
      gather n ds = (Nat.ofDigitChars 10 taken n, ignored) ∧
      Nat.ofDigitChars 10 taken n < 0x10000000000000000 := by
  induction ds generalizing n with
  | nil => exact ⟨[], [], rfl, rfl, hn⟩
  | cons d ds ih =>
      rw [gather]
      by_cases hnext : n * 10 + (d.toNat - '0'.toNat) < 0x10000000000000000
      · rcases ih hnext with ⟨taken, ignored, hsplit, hgather, hlt⟩
        refine ⟨d :: taken, ignored, congrArg (List.cons d) hsplit, ?_, ?_⟩
        · rw [if_pos hnext, hgather, Nat.ofDigitChars_cons, Nat.mul_comm]
        · rw [Nat.ofDigitChars_cons, Nat.mul_comm]
          exact hlt
      · exact ⟨[], d :: ds, rfl, if_neg hnext, hn⟩

theorem gather_of_lt {n : Nat} {ds : List Char}
    (h : Nat.ofDigitChars 10 ds n < 0x10000000000000000) :
    gather n ds = (Nat.ofDigitChars 10 ds n, []) := by
  induction ds generalizing n with
  | nil => rfl
  | cons d ds ih =>
      rw [Nat.ofDigitChars_cons, Nat.mul_comm] at h ⊢
      have hnext : n * 10 + (d.toNat - '0'.toNat) < 0x10000000000000000 := by
        refine Nat.lt_of_le_of_lt ?_ h
        refine Nat.le_trans ?_ (le_ofDigitChars ds _)
        exact Nat.le_mul_of_pos_right _ (Nat.pow_pos (by decide))
      rw [gather, if_pos hnext, ih h]

/-!
## The float of a numeral
-/

theorem isFinite_neg (x : Binary64) : x.neg.isFinite = x.isFinite := by
  have hfield : x.neg.exponentField = x.exponentField := by
    unfold exponentField neg
    rw [UInt64.toNat_xor, show (0x10000000000000 : Nat) = 2 ^ 52 from rfl,
      show (0x800 : Nat) = 2 ^ 11 from rfl, ← Nat.shiftRight_eq_div_pow,
      ← Nat.shiftRight_eq_div_pow, Nat.shiftRight_xor_distrib,
      Nat.xor_mod_two_pow]
    exact Nat.xor_zero _
  unfold isFinite
  rw [hfield]

theorem float?_of_gathered {n : Numeral} {whole significand : Nat}
    {dropped ignored : List Char} (hwhole : gather 0 n.whole = (whole, dropped))
    (hfraction : gather whole (n.fraction.getD []) = (significand, ignored))
    (hscaled :
      exists x,
          scaleByTen (.ofNat significand)
              ((dropped.length : Int) -
                ((n.fraction.getD []).length - ignored.length) +
                n.exponent.getD 0) =
            some x ∧
        x.isFinite = true) :
    exists x finite, n.float? = some (.float x finite) := by
  rcases hscaled with ⟨x, hscaled, hfinite⟩
  unfold float?
  rw [hwhole]
  simp only [hfraction, hscaled]
  cases n.negative with
  | true =>
      exact ⟨x.neg, (isFinite_neg x).trans hfinite,
        dif_pos ((isFinite_neg x).trans hfinite)⟩
  | false => exact ⟨x, hfinite, dif_pos hfinite⟩

theorem number?_of_float {n : Numeral}
    (h : Not (n.fraction = none ∧ n.exponent = none))
    (hfloat : exists x finite, n.float? = some (.float x finite)) :
    exists x finite, n.number? = some (.float x finite) := by
  have hinteger : n.integer? = none := by
    unfold integer?
    rw [if_neg (by simpa using h)]
  unfold number?
  rw [hinteger]
  exact hfloat

theorem natCast_mul_slack_lt {n : Nat} (h : n < 0x10000000000000000) :
    (n : Rat) * slack ^ 2 < limit := by
  have hslack : slack ^ 2 ≤ 10 := by
    unfold slack
    norm_num
  have hcast : (n : Rat) ≤ 10 ^ 20 := by
    have hle : n ≤ 10 ^ 20 := by lia
    exact_mod_cast hle
  calc (n : Rat) * slack ^ 2 ≤ 10 ^ 20 * 10 := by gcongr
    _ = 10 ^ 21 := by ring
    _ < limit := natPow_lt_limit (by decide)

theorem natCast_lt_limit {n : Nat} (h : n < 0x10000000000000000) :
    (n : Rat) < limit :=
  calc (n : Rat) = n * 1 := (mul_one _).symm
    _ ≤ n * slack ^ 2 := by
      gcongr
      exact one_le_pow₀ one_le_slack
    _ < limit := natCast_mul_slack_lt h

theorem scaleByTen_of_nonpos {n : Nat} (hn : n < 0x10000000000000000) {e : Int}
    (he : e ≤ 0) :
    exists x, scaleByTen (.ofNat n) e = some x ∧ x.isFinite = true := by
  rcases Int.lt_or_eq_of_le he with hneg | rfl
  · exact scaleByTen_of_neg (isFinite_ofNat (natCast_lt_limit hn)) hneg
  · apply scaleByTen_of_nonneg (Int.le_refl 0)
    rw [zpow_zero, mul_one]
    exact natCast_mul_slack_lt hn

end Numeral
end Json

namespace Binary64

open Json (Numeral)

/-!
## The numeral of a number
-/

namespace Spread

/-- The digits are those of a number, and only zero at the units or below begins
with a zero. -/
structure Proper (s : Spread) : Prop where
  digits : Numeral.Whole s.digits
  zero : s.digits = ['0'] -> s.exponent ≤ 0

def pointedNumeral (negative : Bool) (s : Spread) : Numeral :=
  ⟨negative, s.whole,
    some (if s.fraction.isEmpty then ['0'] else s.fraction), none⟩

def scientificNumeral (negative : Bool) (s : Spread) : Numeral :=
  ⟨negative, s.digits.take 1,
    if s.digits.length = 1 then none else some (s.digits.drop 1),
    some s.exponent⟩

theorem unsignedChars_pointedNumeral (negative : Bool) (s : Spread) :
    (s.pointedNumeral negative).unsignedChars = s.pointed :=
  congrArg (s.whole ++ ·) (List.append_nil _)

theorem unsignedChars_scientificNumeral (negative : Bool) (s : Spread) :
    (s.scientificNumeral negative).unsignedChars = s.scientific := by
  unfold Numeral.unsignedChars scientificNumeral scientific
  rw [List.append_assoc]
  split <;> rfl

theorem whole_eq_cons {s : Spread} (hexponent : 0 ≤ s.exponent) {d : Char}
    {more : List Char} (h : s.digits = d :: more) :
    exists others, s.whole = d :: others := by
  unfold whole
  rw [if_neg (by lia), h]
  exact ⟨_, rfl⟩

theorem isDigit_of_mem_whole {s : Spread} (h : s.Proper) :
    forall c, c ∈ s.whole -> c.isDigit = true := by
  intro c hmem
  unfold whole at hmem
  split at hmem
  · rw [List.mem_singleton.mp hmem]
    rfl
  · rcases List.mem_append.mp hmem with hdigit | hzero
    · exact h.digits.isDigit c (List.mem_of_mem_take hdigit)
    · rw [(List.mem_replicate.mp hzero).right]
      rfl

theorem whole_whole {s : Spread} (h : s.Proper) : Numeral.Whole s.whole := by
  rcases Int.lt_or_le s.exponent 0 with hneg | hnonneg
  · exact .inl (if_pos hneg)
  · rcases h.digits with hzero | ⟨d, more, hhead, hd, _⟩
    · have hexponent : s.exponent = 0 := Int.le_antisymm (h.zero hzero) hnonneg
      left
      unfold whole
      rw [hzero, hexponent]
      rfl
    · rcases whole_eq_cons hnonneg hhead with ⟨others, hwhole⟩
      exact .inr ⟨d, others, hwhole, hd, isDigit_of_mem_whole h⟩

theorem isDigit_of_mem_fraction {s : Spread} (h : s.Proper) :
    forall c, c ∈ s.fraction -> c.isDigit = true := by
  intro c hmem
  unfold fraction at hmem
  split at hmem
  · rcases List.mem_append.mp hmem with hzero | hdigit
    · rw [(List.mem_replicate.mp hzero).right]
      rfl
    · exact h.digits.isDigit c hdigit
  · exact h.digits.isDigit c (List.mem_of_mem_drop hmem)

theorem proper_pointedNumeral {s : Spread} (h : s.Proper) (negative : Bool) :
    (s.pointedNumeral negative).Proper where
  whole := whole_whole h
  fraction ds heq := by
    injection heq with heq
    rw [← heq]
    cases hfraction : s.fraction with
    | nil => exact ⟨List.cons_ne_nil '0' [], Numeral.Whole.isDigit (.inl rfl)⟩
    | cons d more =>
        refine ⟨List.cons_ne_nil d more, ?_⟩
        rw [← hfraction]
        intro c hmem
        apply isDigit_of_mem_fraction h c
        simpa [hfraction] using hmem

theorem proper_scientificNumeral {s : Spread} (h : s.Proper) (negative : Bool) :
    (s.scientificNumeral negative).Proper where
  whole := by
    show Numeral.Whole (s.digits.take 1)
    rcases h.digits with hzero | ⟨d, more, hhead, hd, hdigits⟩
    · rw [hzero]
      exact .inl rfl
    · rw [hhead]
      refine .inr ⟨d, [], rfl, hd, ?_⟩
      intro c hmem
      apply hdigits
      rw [hhead]
      exact List.mem_of_mem_take hmem
  fraction ds heq := by
    have hsome : Not (s.digits.length = 1) := by
      intro hone
      rw [scientificNumeral, if_pos hone] at heq
      cases heq
    rw [scientificNumeral, if_neg hsome] at heq
    injection heq with heq
    rw [← heq]
    refine ⟨?_, fun c hmem => h.digits.isDigit c (List.mem_of_mem_drop hmem)⟩
    rcases h.digits.exists_head with ⟨d, more, hhead, _⟩
    rw [hhead] at hsome ⊢
    intro hnil
    rw [List.drop_succ_cons, List.drop_zero] at hnil
    rw [hnil] at hsome
    exact hsome rfl

end Spread

def jsonNumeral (x : Binary64) : Numeral :=
  let s := x.spread .toEven
  if -5 ≤ s.exponent ∧ s.exponent ≤ 15 then s.pointedNumeral x.isNegative
  else s.scientificNumeral x.isNegative

theorem chars_jsonNumeral (x : Binary64) :
    x.jsonNumeral.chars = x.jsonChars := by
  unfold jsonNumeral jsonChars
  simp only
  split
  · rw [Numeral.chars, Spread.unsignedChars_pointedNumeral]
    rfl
  · rw [Numeral.chars, Spread.unsignedChars_scientificNumeral]
    rfl

theorem proper_spread {x : Binary64} (hfinite : x.isFinite = true) (tie : Tie) :
    (x.spread tie).Proper := by
  unfold spread
  cases hzero : x.isZero with
  | true => exact ⟨.inl rfl, fun _ => Int.le_refl 0⟩
  | false =>
      refine ⟨Numeral.whole_toDigits _, ?_⟩
      intro hdigits
      have hcoefficient : (x.shortest tie).coefficient = 0 := by
        rw [← Nat.ofDigitChars_ten_toDigits (n := (x.shortest tie).coefficient)]
        exact congrArg (Nat.ofDigitChars 10 · 0) hdigits
      have hpos := coefficient_shortest_pos hfinite hzero tie
      lia

theorem proper_jsonNumeral {x : Binary64} (hfinite : x.isFinite = true) :
    x.jsonNumeral.Proper := by
  have hproper := proper_spread hfinite .toEven
  unfold jsonNumeral
  simp only
  split
  · exact Spread.proper_pointedNumeral hproper x.isNegative
  · exact Spread.proper_scientificNumeral hproper x.isNegative

/-!
## Reading the number
-/

theorem Spread.length_whole_le {s : Spread} (h : s.exponent ≤ 15) :
    s.whole.length ≤ 16 := by
  unfold whole
  split
  · decide
  · simp only [List.length_append, List.length_take, List.length_replicate]
    lia

theorem Spread.float?_pointedNumeral {s : Spread} (h : s.Proper)
    (hexponent : s.exponent ≤ 15) (negative : Bool) :
    exists x finite,
      (s.pointedNumeral negative).float? = some (.float x finite) := by
  have hwhole : Nat.ofDigitChars 10 s.whole 0 < 0x10000000000000000 :=
    calc
      Nat.ofDigitChars 10 s.whole 0 < 10 ^ s.whole.length :=
        Numeral.ofDigitChars_lt (isDigit_of_mem_whole h)
      _ ≤ 10 ^
        16 := Nat.pow_le_pow_right (by decide) (length_whole_le hexponent)
      _ ≤ 0x10000000000000000 := by decide
  rcases Numeral.exists_gathered hwhole
    ((s.pointedNumeral negative).fraction.getD []) with
    ⟨taken, ignored, hfraction, hgather, hlt⟩
  apply Numeral.float?_of_gathered (Numeral.gather_of_lt hwhole) hgather
  apply Numeral.scaleByTen_of_nonpos hlt
  rw [hfraction, List.length_append]
  show ((0 : Nat) : Int) -
      ((taken.length + ignored.length : Nat) - (ignored.length : Int)) + 0 ≤ 0
  lia

/-- However many digits are gathered, their value is at most that of the
decimal. -/
theorem Decimal.gathered_le {d : Decimal} {significand : Nat}
    {ignored : List Char}
    (h : Nat.ofDigitChars 10 ignored significand = d.coefficient) :
    (significand : Rat) * 10 ^ (d.exponent + ignored.length) ≤ d.value := by
  have hle :
      ((significand * 10 ^ ignored.length : Nat) : Rat) ≤ d.coefficient := by
    rw [← h]
    exact_mod_cast Numeral.le_ofDigitChars ignored significand
  rw [Nat.cast_mul, Nat.cast_pow, Nat.cast_ofNat] at hle
  unfold value
  calc
    (significand : Rat) * 10 ^ (d.exponent + ignored.length) =
        significand * 10 ^ ignored.length * 10 ^ d.exponent := by
      rw [zpow_add₀ (by norm_num), zpow_natCast]
      ring
    _ ≤ d.coefficient * 10 ^ d.exponent := by gcongr

theorem Decimal.parts_scientificNumeral {d : Decimal} {first : Char}
    {more : List Char} (hdigits : Nat.toDigits 10 d.coefficient = first :: more)
    (negative : Bool) :
    (d.spread.scientificNumeral negative).whole = [first] ∧
      (d.spread.scientificNumeral negative).fraction.getD [] = more ∧
      (d.spread.scientificNumeral negative).exponent.getD 0 =
        d.exponent + more.length := by
  have hspread :
      d.spread = ⟨first :: more, d.exponent + (first :: more).length - 1⟩ := by
    unfold spread
    rw [hdigits]
  rw [hspread]
  refine ⟨rfl, ?_, ?_⟩
  · cases more with
    | nil => rfl
    | cons c more => rfl
  · show d.exponent + ((first :: more).length : Int) - 1 =
        d.exponent + more.length
    rw [List.length_cons]
    lia

theorem ofDigitChars_singleton_lt {c : Char} (hc : c.isDigit = true) :
    Nat.ofDigitChars 10 [c] 0 < 0x10000000000000000 := by
  have hlt : Nat.ofDigitChars 10 [c] 0 < 10 ^ 1 := by
    apply Numeral.ofDigitChars_lt
    intro d hmem
    rw [List.mem_singleton.mp hmem]
    exact hc
  exact Nat.lt_trans hlt (by decide)

theorem Decimal.float?_scientificNumeral_of_scaled {d : Decimal}
    (h :
      forall significand ignored, significand < 0x10000000000000000 ->
        Nat.ofDigitChars 10 ignored significand = d.coefficient ->
        (d.coefficient < 0x10000000000000000 -> ignored = []) ->
        exists x,
            Numeral.scaleByTen (.ofNat significand)
                (d.exponent + ignored.length) =
              some x ∧
          x.isFinite = true)
    (negative : Bool) :
    exists x finite,
      (d.spread.scientificNumeral negative).float? =
        some (.float x finite) := by
  rcases (Numeral.whole_toDigits d.coefficient).exists_head with
    ⟨first, more, hdigits, hfirst⟩
  rcases parts_scientificNumeral hdigits negative with
    ⟨hwhole, hfraction, hexponent⟩
  have hlead := ofDigitChars_singleton_lt hfirst
  have hall : Nat.ofDigitChars 10 more (Nat.ofDigitChars 10 [first] 0) =
      d.coefficient := by
    rw [← Nat.ofDigitChars_append, List.singleton_append, ← hdigits]
    exact Nat.ofDigitChars_ten_toDigits
  rcases Numeral.exists_gathered hlead more with
    ⟨taken, ignored, rfl, hgather, hlt⟩
  have hscaled :=
    h _ ignored hlt (by rw [← Nat.ofDigitChars_append, hall]) fun hsmall => by
    rw [Numeral.gather_of_lt (by rw [hall]; exact hsmall)] at hgather
    exact (Prod.mk.inj hgather).right.symm
  have hgatherLead :
      Numeral.gather 0 (d.spread.scientificNumeral negative).whole =
        (Nat.ofDigitChars 10 [first] 0, []) := by
    rw [hwhole]
    exact Numeral.gather_of_lt hlead
  rw [← hfraction] at hgather
  apply Numeral.float?_of_gathered hgatherLead hgather
  have hshift :
      (([] : List Char).length : Int) -
          ((taken ++ ignored).length - ignored.length) +
          (d.exponent + (taken ++ ignored).length) =
        d.exponent + ignored.length := by
    rw [List.length_nil]
    lia
  rw [hfraction, hexponent, hshift]
  exact hscaled

theorem lt_of_mem_greatest {c : Nat} (h : c ∈ greatest) :
    c < 0x10000000000000000 := by
  revert c
  decide

theorem Decimal.float?_scientificNumeral {d : Decimal}
    (h : d.value * slack ^ 2 < limit ∨
      d.coefficient ∈ greatest ∧ d.exponent = 292)
    (negative : Bool) :
    exists x finite,
      (d.spread.scientificNumeral negative).float? =
        some (.float x finite) := by
  apply float?_scientificNumeral_of_scaled
  intro significand ignored hsignificand hdigits hnone
  rcases h with hvalue | ⟨hgreatest, hexponent⟩
  · rcases Int.lt_or_le (d.exponent + ignored.length) 0 with hneg | hnonneg
    · exact Numeral.scaleByTen_of_neg
        (isFinite_ofNat (Numeral.natCast_lt_limit hsignificand)) hneg
    · apply Numeral.scaleByTen_of_nonneg hnonneg
      have hgathered := gathered_le hdigits
      calc
        (significand : Rat) * 10 ^ (d.exponent + ignored.length) * slack ^ 2 ≤
            d.value * slack ^ 2 := by
          gcongr
        _ < limit := hvalue
  · have hignored := hnone (lt_of_mem_greatest hgreatest)
    subst hignored
    have hsignificand : significand = d.coefficient := hdigits
    rw [hsignificand, hexponent]
    exact scaleByTen_of_greatest hgreatest rfl

theorem number?_jsonNumeral {x : Binary64} (hfinite : x.isFinite = true) :
    exists y finite, x.jsonNumeral.number? = some (.float y finite) := by
  have hproper := proper_spread hfinite .toEven
  unfold jsonNumeral
  simp only
  split
  · rename_i hpointed
    apply Numeral.number?_of_float fun hnone => Option.some_ne_none _ hnone.left
    exact Spread.float?_pointedNumeral hproper hpointed.right x.isNegative
  · rename_i hscientific
    apply Numeral.number?_of_float
      fun hnone => Option.some_ne_none _ hnone.right
    cases hzero : x.isZero with
    | true =>
        rw [spread, hzero, if_pos rfl] at hscientific
        exact absurd ⟨by decide, by decide⟩ hscientific
    | false =>
        rw [spread, hzero]
        apply Decimal.float?_scientificNumeral
        by_cases hroomy : x.Roomy
        · exact .inl (value_shortest_lt hfinite hzero hroomy .toEven)
        · rcases shortest_of_not_roomy hfinite hroomy with ⟨c, hc, hshortest⟩
          right
          rw [hshortest]
          exact ⟨hc, rfl⟩

end Binary64
end Reshape
