import Reshape.Proofs.Number.Integer
import Reshape.Proofs.Number.TwoPowers
import Reshape.Proofs.Value.Json
import Reshape.Template.Evaluation

/-!
# Floats in running text

Below ten quadrillion a template writes a finite float with a point and digits
around it.  From there on the float is an integer and it is written as that
integer is, without a point.
-/

namespace Reshape

/-- A decimal point with digits before and after it, and a minus sign in front
of what is negative. -/
inductive Pointed : List Char -> Prop
  | positive {whole fraction : List Char} {m n : Nat}
      (before : Integer.Digits whole m) (after : Integer.Digits fraction n) :
      Pointed (whole ++ '.' :: fraction)
  | negative {whole fraction : List Char} {m n : Nat}
      (before : Integer.Digits whole m) (after : Integer.Digits fraction n) :
      Pointed ('-' :: whole ++ '.' :: fraction)

theorem Pointed.point_mem {cs : List Char} (h : Pointed cs) : '.' ∈ cs := by
  cases h with
  | positive => simp
  | negative => simp

/-!
## Integers in running text
-/

namespace Json

theorem point_not_mem_intChars (n : Int) : Not ('.' ∈ intChars n) := by
  unfold intChars
  intro hmem
  split at hmem
  · rcases List.mem_cons.mp hmem with hsign | hdigit
    · cases hsign
    · exact absurd (isDigit_of_mem_toDigits hdigit) (by decide)
  · exact absurd (isDigit_of_mem_toDigits hmem) (by decide)

theorem toDigits_inj {m n : Nat} (h : Nat.toDigits 10 m = Nat.toDigits 10 n) :
    m = n := by
  rw [← Nat.ofDigitChars_ten_toDigits (n := m), h,
    Nat.ofDigitChars_ten_toDigits]

theorem minus_ne_toDigits (ds : List Char) (n : Nat) :
    '-' :: ds ≠ Nat.toDigits 10 n := by
  intro h
  have hmem : '-' ∈ Nat.toDigits 10 n := by
    rw [← h]
    exact List.mem_cons_self
  exact absurd (isDigit_of_mem_toDigits hmem) (by decide)

theorem intChars_inj {m n : Int} (h : intChars m = intChars n) : m = n := by
  unfold intChars at h
  split at h <;> split at h
  · injection h with _ hdigits
    have hmagnitude := toDigits_inj hdigits
    lia
  · exact absurd h (minus_ne_toDigits _ _)
  · exact absurd h.symm (minus_ne_toDigits _ _)
  · have hmagnitude := toDigits_inj h
    lia

end Json

namespace Value

theorem exists_intChars_of_integer {v : Value} (h : v.typeName = "integer") :
    exists n : Int, (-2 ^ 63 ≤ n ∧ n < 2 ^ 64) ∧
      v.shown = String.ofList (Json.intChars n) := by
  cases v with
  | int n =>
      have hlow := n.le_toInt
      have hhigh := n.toInt_lt
      exact ⟨n.toInt, by lia, rfl⟩
  | uint n =>
      have hhigh := n.toNat_lt
      exact ⟨n.toNat, by lia, rfl⟩
  | null => exact absurd h (by decide)
  | bool b => exact absurd h (by decide : "bool" ≠ "integer")
  | float x => exact absurd h (by decide : "float" ≠ "integer")
  | text t => exact absurd h (by decide : "string" ≠ "integer")
  | array items => exact absurd h (by decide : "array" ≠ "integer")
  | map entries => exact absurd h (by decide : "map" ≠ "integer")

theorem exists_integer_shown_iff (n : Int) :
    (exists v : Value, v.typeName = "integer" ∧
      v.shown = String.ofList (Json.intChars n)) <->
      -2 ^ 63 ≤ n ∧ n < 2 ^ 64 := by
  constructor
  · rintro ⟨v, htype, hshown⟩
    rcases exists_intChars_of_integer htype with ⟨m, hrange, hshown'⟩
    rw [hshown'] at hshown
    rw [← Json.intChars_inj (String.ofList_injective hshown)]
    exact hrange
  · intro hrange
    refine ⟨ofInteger n, ?_⟩
    rcases ofInteger_cases hrange with ⟨k, hk, rfl⟩ | ⟨k, hk, rfl, _⟩
    · rw [hk]
      exact ⟨rfl, rfl⟩
    · rw [hk]
      exact ⟨rfl, rfl⟩

end Value

namespace Binary64

section Finite

variable {x : Binary64} (hfinite : x.isFinite = true)

include hfinite

theorem textChars_of_finite :
    x.textChars =
      x.signed
        (if x.isShortInteger then (x.spread .up).pointed
        else (x.spread .up).plain) := by
  have hnumber : x.isNaN = false := by
    unfold isFinite at hfinite
    unfold isNaN
    rw [bne_iff_ne] at hfinite
    rw [beq_eq_false_iff_ne.mpr hfinite, Bool.false_and]
  unfold textChars
  rw [hnumber, hfinite]
  rfl

/-!
## Below ten quadrillion
-/

theorem digits_whole (tie : Tie) :
    Integer.Digits (x.spread tie).whole
      (Nat.ofDigitChars 10 (x.spread tie).whole 0) := by
  have hproper := proper_spread hfinite tie
  rcases (Spread.whole_whole hproper).exists_head with ⟨d, more, hwhole, _⟩
  refine ⟨?_, Spread.isDigit_of_mem_whole hproper, rfl⟩
  rw [hwhole]
  exact List.cons_ne_nil d more

theorem digits_fraction {tie : Tie} (h : (x.spread tie).fraction ≠ []) :
    Integer.Digits (x.spread tie).fraction
      (Nat.ofDigitChars 10 (x.spread tie).fraction 0) :=
  ⟨h, Spread.isDigit_of_mem_fraction (proper_spread hfinite tie), rfl⟩

theorem exists_fraction (hsmall : value x < 10 ^ 16) :
    exists fraction n, Integer.Digits fraction n ∧
      (if x.isShortInteger then (x.spread .up).pointed
      else (x.spread .up).plain) =
        (x.spread .up).whole ++ '.' :: fraction := by
  have hfraction := fraction_spread_eq_nil_iff hfinite .up
  by_cases hintegral : x.isIntegral = true
  · rw [if_pos ((isShortInteger_iff x).mpr ⟨hintegral, hsmall⟩), Spread.pointed,
      hfraction.mpr hintegral]
    exact ⟨['0'], 0, Integer.digits_toDigits 0, rfl⟩
  · have hnotShort : Not (x.isShortInteger = true) := fun hshort =>
      hintegral ((isShortInteger_iff x).mp hshort).left
    have hsome : (x.spread .up).fraction ≠ [] :=
      fun hnil => hintegral (hfraction.mp hnil)
    refine ⟨_, _, digits_fraction hfinite hsome, ?_⟩
    rw [if_neg hnotShort, Spread.plain, if_neg (by simpa using hsome)]

theorem pointed_textChars (hsmall : value x < 10 ^ 16) :
    Pointed x.textChars := by
  rcases exists_fraction hfinite hsmall with ⟨fraction, n, hdigits, hchars⟩
  rw [textChars_of_finite hfinite, hchars]
  unfold signed
  split
  · exact .negative (digits_whole hfinite .up) hdigits
  · exact .positive (digits_whole hfinite .up) hdigits

/-- The negative zero keeps its sign. -/
example : textChars ⟨0x8000000000000000⟩ = "-0.0".toList := by decide +kernel

end Finite

/-!
## From ten quadrillion on
-/

theorem Spread.plain_of_fraction_eq_nil {s : Spread} (h : s.fraction = []) :
    s.plain = s.whole := by
  rw [plain, h]
  exact List.append_nil s.whole

theorem signed_toDigits {n : Nat} (hn : 0 < n) (x : Binary64) :
    x.signed (Nat.toDigits 10 n) =
      Json.intChars (if x.isNegative then -n else n) := by
  unfold signed Json.intChars
  cases x.isNegative with
  | true =>
      have hneg : -(n : Int) < 0 := by lia
      rw [if_pos rfl, if_pos rfl, if_pos hneg, Int.natAbs_neg,
        Int.natAbs_natCast]
  | false =>
      have hnonneg : Not ((n : Int) < 0) := by lia
      rw [if_neg Bool.false_ne_true, if_neg Bool.false_ne_true, if_neg hnonneg,
        Int.natAbs_natCast]

section Large

variable {x : Binary64} (hlarge : 10 ^ 16 ≤ value x)

include hlarge

theorem power_nonneg_of_large : 0 ≤ x.power :=
  power_nonneg_of_le (le_trans (by norm_num) hlarge)

theorem isZero_of_large : x.isZero = false :=
  isZero_of_value_pos (lt_of_lt_of_le (by norm_num) hlarge)

theorem significand_of_large : 0x10000000000000 ≤ x.significand := by
  have hpower := power_nonneg_of_large hlarge
  unfold power at hpower
  unfold significand
  rw [if_neg (by lia)]
  exact Nat.le_add_right _ _

variable (hfinite : x.isFinite = true)

include hfinite

/-- What is written is the shortest decimal, with a zero for every digit that it
leaves out. -/
theorem textChars_of_large :
    exists n : Nat, (x.shortest .up).value = n ∧
      x.textChars = Json.intChars (if x.isNegative then -n else n) := by
  have hintegral := isIntegral_of_power_nonneg (power_nonneg_of_large hlarge)
  have hzero := isZero_of_large hlarge
  have hpos := coefficient_shortest_pos hfinite hzero .up
  have hexponent :=
    (shortest_exponent_nonneg_iff hfinite hzero .up).mpr hintegral
  have hnotShort : Not (x.isShortInteger = true) := fun hshort =>
    absurd ((isShortInteger_iff x).mp hshort).right (not_lt_of_ge hlarge)
  have hfraction := (fraction_spread_eq_nil_iff hfinite .up).mpr hintegral
  have hspread : x.spread .up = (x.shortest .up).spread := by
    unfold spread
    rw [hzero]
    rfl
  refine ⟨(x.shortest .up).coefficient * 10 ^ (x.shortest .up).exponent.toNat,
    ?_, ?_⟩
  · rw [Decimal.value, Nat.cast_mul, Nat.cast_pow, Nat.cast_ofNat,
      zpow_toNat hexponent]
  · have hnumber : 0 <
        (x.shortest .up).coefficient * 10 ^ (x.shortest .up).exponent.toNat :=
      Nat.mul_pos hpos (Nat.pow_pos (by decide))
    rw [textChars_of_finite hfinite, if_neg hnotShort,
      Spread.plain_of_fraction_eq_nil hfraction, hspread,
      Decimal.whole_spread hpos hexponent, signed_toDigits hnumber]

theorem lt_wordLimit_iff {n : Nat} (hn : (x.shortest .up).value = n) {b : Nat}
    (hb : b = 63 ∨ b = 64) : (value x < 2 ^ b <-> n < 2 ^ b) ∧ n ≠ 2 ^ b := by
  rcases lt_or_ge (value x) (2 ^ b) with hbelow | habove
  · have hdecimal :=
      value_shortest_lt_twoPower hfinite (isZero_of_large hlarge) hbelow .up
    rw [hn] at hdecimal
    have hless : n < 2 ^ b := by exact_mod_cast hdecimal
    exact ⟨iff_of_true hbelow hless, Nat.ne_of_lt hless⟩
  · have hdecimal :=
      wordLimit_lt_value_shortest hfinite (significand_of_large hlarge)
        hb habove
    rw [hn] at hdecimal
    have hgreater : 2 ^ b < n := by exact_mod_cast hdecimal
    exact ⟨iff_of_false (not_lt_of_ge habove) (Nat.lt_asymm hgreater),
      Nat.ne_of_gt hgreater⟩

theorem fits_words_iff {n : Nat} (hn : (x.shortest .up).value = n) :
    (-2 ^ 63 ≤ (if x.isNegative then -n else n : Int) ∧
        (if x.isNegative then -n else n : Int) < 2 ^ 64) <->
      value x < if x.isNegative then 2 ^ 63 else 2 ^ 64 := by
  cases x.isNegative with
  | true =>
      rcases lt_wordLimit_iff hlarge hfinite hn (.inl rfl) with ⟨hiff, hne⟩
      rw [if_pos rfl, if_pos rfl, hiff]
      lia
  | false =>
      rcases lt_wordLimit_iff hlarge hfinite hn (.inr rfl) with ⟨hiff, _⟩
      rw [if_neg Bool.false_ne_true, if_neg Bool.false_ne_true, hiff]
      lia

end Large

end Binary64

namespace Template

/-!
## Floats in templates
-/

/-- For every finite float the text in a template has a point with digits around
it exactly below ten quadrillion.  From there on it is the text of an integer,
and of an integer value as long as a word holds it. -/
theorem evaluate_float_iff {x : Binary64} (hfinite : x.isFinite = true)
    {e : Expr} {ctx : Context} (h : e.evaluate ctx = .ok (.float x)) :
    exists cs : List Char,
      (Value.float x).shown = String.ofList cs ∧
      Segment.evaluate ctx (.expr e) = .ok (Text.ofString (String.ofList cs)) ∧
      (Pointed cs <-> x.value < 10 ^ 16) ∧
      ((exists n : Int, cs = Json.intChars n) <-> 10 ^ 16 ≤ x.value) ∧
      ((exists v : Value, v.typeName = "integer" ∧
        v.shown = String.ofList cs) <->
        10 ^ 16 ≤ x.value ∧
          x.value < if x.isNegative then 2 ^ 63 else 2 ^ 64) := by
  refine ⟨x.textChars, rfl, ?_, ?_⟩
  · rw [Segment.evaluate, h]
    rfl
  -- A point is in no text of an integer, so a text is of one of the two kinds
  -- only.
  rcases lt_or_ge x.value (10 ^ 16) with hsmall | hlarge
  · have hpointed := Binary64.pointed_textChars hfinite hsmall
    have hnone : forall n : Int, x.textChars ≠ Json.intChars n := by
      intro n heq
      apply Json.point_not_mem_intChars n
      rw [← heq]
      exact hpointed.point_mem
    refine ⟨iff_of_true hpointed hsmall, iff_of_false ?_ (not_le_of_gt hsmall),
      iff_of_false ?_ ?_⟩
    · rintro ⟨n, hn⟩
      exact hnone n hn
    · rintro ⟨v, htype, hshown⟩
      rcases Value.exists_intChars_of_integer htype with ⟨n, _, hinteger⟩
      exact hnone n (String.ofList_injective (hshown.symm.trans hinteger))
    · exact fun hrange => not_le_of_gt hsmall hrange.left
  · rcases Binary64.textChars_of_large hlarge hfinite with ⟨n, hn, htext⟩
    rw [htext]
    refine ⟨iff_of_false ?_ (not_lt_of_ge hlarge), iff_of_true ⟨_, rfl⟩ hlarge,
      ?_⟩
    · exact fun hpointed => Json.point_not_mem_intChars _ hpointed.point_mem
    · rw [Value.exists_integer_shown_iff,
        Binary64.fits_words_iff hlarge hfinite hn]
      exact (and_iff_right hlarge).symm

def holding (x : Binary64) : Context :=
  ⟨⟨[], [], 0⟩, "a", 0, [("f", .float x)], none⟩

def held : Expr :=
  ⟨.record, [.key "f"]⟩

theorem evaluate_float_iff_leastNegative :
    Binary64.isFinite ⟨0x8000000000000001⟩ = true ∧
      held.evaluate (holding ⟨0x8000000000000001⟩) =
        .ok (.float ⟨0x8000000000000001⟩) ∧
      exists cs : List Char, Pointed cs ∧
        Segment.evaluate (holding ⟨0x8000000000000001⟩) (.expr held) =
          .ok (Text.ofString (String.ofList cs)) := by
  have hsignificand : Binary64.significand ⟨0x8000000000000001⟩ = 1 := by decide
  have hpower : Binary64.power ⟨0x8000000000000001⟩ = -1074 := by decide
  have hsmall : Binary64.value ⟨0x8000000000000001⟩ < 10 ^ 16 := by
    rw [Binary64.value, hsignificand, hpower, Nat.cast_one, one_mul]
    exact lt_of_le_of_lt (zpow_le_one_of_nonpos₀ (by norm_num) (by decide))
      (by norm_num)
  have hfinite : Binary64.isFinite ⟨0x8000000000000001⟩ = true := by decide
  have hheld : held.evaluate (holding ⟨0x8000000000000001⟩) =
      .ok (.float ⟨0x8000000000000001⟩) := by
    rfl
  rcases evaluate_float_iff hfinite hheld with ⟨cs, _, htext, hpointed, _⟩
  exact ⟨hfinite, hheld, cs, hpointed.mpr hsmall, htext⟩

/-- Ten quadrillion as a float has the text of the integer, without a point. -/
theorem evaluate_tenQuadrillion_pointless :
    Binary64.isFinite ⟨0x4341C37937E08000⟩ = true ∧
      Binary64.value ⟨0x4341C37937E08000⟩ = 10 ^ 16 ∧
      Segment.evaluate (holding ⟨0x4341C37937E08000⟩) (.expr held) =
        .ok (Text.ofString "10000000000000000") ∧
      (Value.float ⟨0x4341C37937E08000⟩).shown =
        (Value.int 10000000000000000).shown ∧
      Not (Pointed "10000000000000000".toList) := by
  have hshortest : Binary64.shortest .up ⟨0x4341C37937E08000⟩ = ⟨1, 16⟩ :=
    Binary64.shortest_of_search (by decide +kernel) (by decide)
  have hspread : Binary64.spread .up ⟨0x4341C37937E08000⟩ =
      (⟨1, 16⟩ : Binary64.Decimal).spread := by
    rw [← hshortest]
    rfl
  have htext :
      Binary64.textChars ⟨0x4341C37937E08000⟩ = "10000000000000000".toList := by
    rw [Binary64.textChars_of_finite (by decide), hspread]
    decide +kernel
  have hsignificand :
      Binary64.significand ⟨0x4341C37937E08000⟩ = 5000000000000000 := by
    decide
  have hpower : Binary64.power ⟨0x4341C37937E08000⟩ = 1 := by decide
  have hshown :
      (Value.float ⟨0x4341C37937E08000⟩).shown = "10000000000000000" :=
    congrArg String.ofList htext
  refine ⟨by decide, ?_, ?_, ?_, ?_⟩
  · rw [Binary64.value, hsignificand, hpower]
    norm_num
  · rw [← hshown]
    rfl
  · rw [hshown]
    decide +kernel
  · exact fun hpointed => absurd hpointed.point_mem (by decide)

end Template
end Reshape
