import Reshape.Json.Printer
import Reshape.Number.Integer

/-!
# Integers and their digits

An integer is read from digits that come to it, and from no others.  Zeros may
stand in front.
-/

namespace Reshape
namespace Integer

structure Digits (ds : List Char) (n : Nat) : Prop where
  some : ds ≠ []
  all_digits : forall d, d ∈ ds -> d.isDigit = true
  value : Nat.ofDigitChars 10 ds 0 = n

theorem digits_toDigits (n : Nat) : Digits (Nat.toDigits 10 n) n where
  some := Nat.toDigits_ne_nil
  all_digits _ := Nat.isDigit_of_mem_toDigits (by decide) (by decide)
  value := Nat.ofDigitChars_toDigits (by decide) (by decide)

theorem magnitude?_eq_some_iff {ds : List Char} {n : Nat} :
    magnitude? ds = some n <-> Digits ds n := by
  unfold magnitude?
  simp only [Option.ite_none_right_eq_some, Bool.and_eq_true, Bool.not_eq_true',
    List.isEmpty_eq_false_iff, List.all_eq_true, Option.some.injEq]
  constructor
  · intro h
    exact ⟨h.left.left, h.left.right, h.right⟩
  · intro h
    exact ⟨⟨h.some, h.all_digits⟩, h.value⟩

theorem word?_eq_some_iff {i : Int} {n : Int64} :
    word? i = some n <-> n.toInt = i := by
  unfold word?
  constructor
  · intro h
    split at h
    · rename_i hrange
      cases h
      exact Int64.toInt_ofInt_of_le (by lia) (by lia)
    · cases h
  · rintro rfl
    have hlow := n.le_toInt
    have hhigh := n.toInt_lt
    rw [if_pos (by lia), Int64.ofInt_toInt]

theorem bind_word?_eq_some_iff {ds : List Char} {f : Nat -> Int} {n : Int64} :
    ((magnitude? ds).bind fun m => word? (f m)) = some n <->
      exists m, Digits ds m ∧ n.toInt = f m := by
  simp only [Option.bind_eq_some_iff, magnitude?_eq_some_iff, word?_eq_some_iff]

/-- An integer in decimal, with a minus sign in front of what is taken away from
zero. -/
inductive Decimal (n : Int64) : List Char -> Prop
  | natural {ds : List Char} {m : Nat} (digits : Digits ds m)
      (value : n.toInt = m) : Decimal n ds
  | negative {ds : List Char} {m : Nat} (digits : Digits ds m)
      (value : n.toInt = -m) : Decimal n ('-' :: ds)

theorem decimal_intChars (n : Int64) : Decimal n (Json.intChars n.toInt) := by
  unfold Json.intChars
  split
  · exact .negative (digits_toDigits n.toInt.natAbs) (by lia)
  · exact .natural (digits_toDigits n.toInt.natAbs) (by lia)

/-- Without a plus sign, the decimals of an integer are what is read as it. -/
theorem read?_eq_some_iff {cs : List Char}
    (hplus : forall rest, cs ≠ '+' :: rest) {n : Int64} :
    read? cs = some n <-> Decimal n cs := by
  constructor
  · intro h
    unfold read? at h
    split at h
    · rcases bind_word?_eq_some_iff.mp h with ⟨m, hdigits, hvalue⟩
      exact .negative hdigits hvalue
    · rename_i digits
      exact absurd rfl (hplus digits)
    · rcases bind_word?_eq_some_iff.mp h with ⟨m, hdigits, hvalue⟩
      exact .natural hdigits hvalue
  · intro h
    cases h with
    | @natural ds m digits value =>
        unfold read?
        split
        · exact absurd (digits.all_digits '-' List.mem_cons_self) (by decide)
        · exact absurd (digits.all_digits '+' List.mem_cons_self) (by decide)
        · exact bind_word?_eq_some_iff.mpr ⟨m, digits, value⟩
    | @negative ds m digits value =>
        exact bind_word?_eq_some_iff.mpr ⟨m, digits, value⟩

theorem Decimal.exists_head {n : Int64} {cs : List Char} (h : Decimal n cs) :
    exists c rest, cs = c :: rest ∧ (c = '-' ∨ c.isDigit = true) ∧
      forall d, d ∈ rest -> d.isDigit = true := by
  cases h with
  | @natural _ m digits value =>
      cases cs with
      | nil => exact absurd rfl digits.some
      | cons c rest =>
          exact ⟨c, rest, rfl, .inr (digits.all_digits c List.mem_cons_self),
            fun d hd => digits.all_digits d (List.mem_cons_of_mem c hd)⟩
  | @negative ds m digits value =>
      exact ⟨'-', ds, rfl, .inl rfl, digits.all_digits⟩

end Integer
end Reshape
