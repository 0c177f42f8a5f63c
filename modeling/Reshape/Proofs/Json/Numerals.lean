import Reshape.Json.Numeral
import Reshape.Json.Printer

/-!
# Numerals in JSON

A numeral written from its parts is taken apart into the same parts, provided
that nothing follows which would make it a longer one.  An integer that a 64-bit
word holds is written as its digits, without zeros in front, and read back as
the same integer.
-/

namespace Reshape
namespace Json

def extendsNumeral (c : Char) : Bool :=
  c.isDigit || c == '.' || c == 'e' || c == 'E'

/-- The text does not go on with a numeral before it. -/
def Stops : List Char -> Prop
  | [] => True
  | c :: _ => extendsNumeral c = false

theorem of_extendsNumeral {c : Char} (h : extendsNumeral c = false) :
    c.isDigit = false ∧ c ≠ '.' ∧ c ≠ 'e' ∧ c ≠ 'E' := by
  simp only [extendsNumeral, Bool.or_eq_false_iff, beq_eq_false_iff_ne] at h
  rcases h with ⟨⟨⟨hdigit, hpoint⟩, hlower⟩, hupper⟩
  exact ⟨hdigit, hpoint, hlower, hupper⟩

def opensNumeral (c : Char) : Bool :=
  c == '-' || c.isDigit

theorem ne_of_opensNumeral {c d : Char} (hc : opensNumeral c = true)
    (hd : opensNumeral d = false) : c ≠ d := by
  intro heq
  rw [heq, hd] at hc
  cases hc

theorem opensNumeral_of_isDigit {c : Char} (h : c.isDigit = true) :
    opensNumeral c = true := by
  unfold opensNumeral
  rw [h, Bool.or_true]

/-!
## Digits
-/

theorem isDigit_of_mem_toDigits {n : Nat} {c : Char}
    (h : c ∈ Nat.toDigits 10 n) : c.isDigit = true :=
  Nat.isDigit_of_mem_toDigits (by decide) (by decide) h

theorem exists_head_toDigits {n : Nat} (h : 0 < n) :
    exists d ds, Nat.toDigits 10 n = d :: ds ∧ d ≠ '0' := by
  induction n using Nat.strongRecOn with
  | ind n ih =>
      by_cases hone : n < 10
      · rw [Nat.toDigits_of_lt_base hone]
        refine ⟨Nat.digitChar n, [], rfl, ?_⟩
        intro hzero
        have hn : n = 0 := Nat.digitChar_eq_zero.mp hzero
        lia
      · have hrest : 0 < n / 10 := by lia
        rcases ih (n / 10) (by lia) hrest with ⟨d, ds, hdigits, hd⟩
        rw [Nat.toDigits_of_base_le (by decide) (Nat.le_of_not_lt hone),
          hdigits]
        exact ⟨d, ds ++ [Nat.digitChar (n % 10)], rfl, hd⟩

namespace Numeral

/-!
## The text of a numeral
-/

/-- The digits of an integer part: a zero stands alone. -/
def Whole (ds : List Char) : Prop :=
  ds = ['0'] ∨
    exists d more, ds = d :: more ∧ d ≠ '0' ∧
      forall c, c ∈ ds -> c.isDigit = true

structure Proper (n : Numeral) : Prop where
  whole : Whole n.whole
  fraction : forall ds, n.fraction = some ds ->
    ds ≠ [] ∧ forall c, c ∈ ds -> c.isDigit = true

def fractionChars : Option (List Char) -> List Char
  | none => []
  | some ds => '.' :: ds

def exponentChars : Option Int -> List Char
  | none => []
  | some e => 'e' :: (if e < 0 then '-' else '+') :: Nat.toDigits 10 e.natAbs

def unsignedChars (n : Numeral) : List Char :=
  n.whole ++ (fractionChars n.fraction ++ exponentChars n.exponent)

def chars (n : Numeral) : List Char :=
  if n.negative then '-' :: n.unsignedChars else n.unsignedChars

theorem Whole.isDigit {ds : List Char} (h : Whole ds) :
    forall c, c ∈ ds -> c.isDigit = true := by
  rcases h with rfl | ⟨_, _, _, _, hdigits⟩
  · intro c hc
    rw [List.mem_singleton.mp hc]
    rfl
  · exact hdigits

theorem Whole.exists_head {ds : List Char} (h : Whole ds) :
    exists d more, ds = d :: more ∧ d.isDigit = true := by
  cases ds with
  | nil =>
      rcases h with heq | ⟨_, _, heq, _⟩
      · cases heq
      · cases heq
  | cons d more => exact ⟨d, more, rfl, h.isDigit d List.mem_cons_self⟩

theorem whole_toDigits (n : Nat) : Whole (Nat.toDigits 10 n) := by
  rcases Nat.eq_zero_or_pos n with rfl | hpos
  · exact .inl rfl
  · rcases exists_head_toDigits hpos with ⟨d, more, hhead, hd⟩
    exact .inr ⟨d, more, hhead, hd, fun c hc => isDigit_of_mem_toDigits hc⟩

theorem exists_head_chars {n : Numeral} (h : n.Proper) :
    exists c cs, n.chars = c :: cs ∧ opensNumeral c = true := by
  unfold chars
  cases n.negative with
  | true => exact ⟨'-', _, rfl, rfl⟩
  | false =>
      rcases h.whole.exists_head with ⟨d, more, hwhole, hd⟩
      refine ⟨d, more ++ (fractionChars n.fraction ++ exponentChars n.exponent),
        ?_, opensNumeral_of_isDigit hd⟩
      rw [if_neg (by decide), unsignedChars, hwhole]
      rfl

theorem newline_not_mem_unsignedChars {n : Numeral} (h : n.Proper) :
    Not ('\n' ∈ n.unsignedChars) := by
  intro hmem
  rcases List.mem_append.mp hmem with hwhole | hmem
  · exact absurd (h.whole.isDigit _ hwhole) (by decide)
  · rcases List.mem_append.mp hmem with hfraction | hexponent
    · cases hparts : n.fraction with
      | none =>
          rw [hparts] at hfraction
          cases hfraction
      | some ds =>
          rw [hparts] at hfraction
          rcases List.mem_cons.mp hfraction with hpoint | hdigit
          · exact absurd hpoint (by decide)
          · exact absurd ((h.fraction ds hparts).right _ hdigit) (by decide)
    · cases hparts : n.exponent with
      | none =>
          rw [hparts] at hexponent
          cases hexponent
      | some e =>
          rw [hparts] at hexponent
          rcases List.mem_cons.mp hexponent with hletter | hexponent
          · exact absurd hletter (by decide)
          · rcases List.mem_cons.mp hexponent with hsign | hdigit
            · split at hsign <;> exact absurd hsign (by decide)
            · exact absurd (isDigit_of_mem_toDigits hdigit) (by decide)

theorem newline_not_mem_chars {n : Numeral} (h : n.Proper) :
    Not ('\n' ∈ n.chars) := by
  have hunsigned := newline_not_mem_unsignedChars h
  unfold chars
  split
  · simpa using hunsigned
  · exact hunsigned

/-!
## Reading the parts
-/

def EndsDigits : List Char -> Prop
  | [] => True
  | c :: _ => c.isDigit = false

def EndsFraction : List Char -> Prop
  | [] => True
  | c :: _ => c.isDigit = false ∧ c ≠ '.'

theorem endsFraction_of_stops {rest : List Char} (h : Stops rest) :
    EndsFraction rest := by
  cases rest with
  | nil => trivial
  | cons c rest =>
      exact ⟨(of_extendsNumeral h).left, (of_extendsNumeral h).right.left⟩

theorem endsDigits_of_endsFraction {rest : List Char} (h : EndsFraction rest) :
    EndsDigits rest := by
  cases rest with
  | nil => trivial
  | cons c rest => exact h.left

theorem endsDigits_of_stops {rest : List Char} (h : Stops rest) :
    EndsDigits rest :=
  endsDigits_of_endsFraction (endsFraction_of_stops h)

theorem endsFraction_exponentChars (exponent : Option Int) {rest : List Char}
    (h : Stops rest) : EndsFraction (exponentChars exponent ++ rest) := by
  cases exponent with
  | none => exact endsFraction_of_stops h
  | some e => exact ⟨rfl, by decide⟩

theorem endsDigits_fractionChars (fraction : Option (List Char))
    {rest : List Char} (h : EndsFraction rest) :
    EndsDigits (fractionChars fraction ++ rest) := by
  cases fraction with
  | none => exact endsDigits_of_endsFraction h
  | some ds => exact rfl

theorem digits?_append {ds rest : List Char}
    (hds : forall c, c ∈ ds -> c.isDigit = true) (hsome : ds ≠ [])
    (hrest : EndsDigits rest) : digits? (ds ++ rest) = some (ds, rest) := by
  have htake : rest.takeWhile Char.isDigit = [] := by
    cases rest with
    | nil => rfl
    | cons c rest =>
        rw [List.takeWhile_cons, show c.isDigit = false from hrest]
        rfl
  have hdrop : rest.dropWhile Char.isDigit = rest := by
    cases rest with
    | nil => rfl
    | cons c rest =>
        rw [List.dropWhile_cons, show c.isDigit = false from hrest]
        rfl
  unfold digits?
  rw [List.takeWhile_append_of_pos hds, List.dropWhile_append_of_pos hds, htake,
    hdrop, List.append_nil]
  cases ds with
  | nil => exact absurd rfl hsome
  | cons d ds => rfl

theorem whole?_append {ds rest : List Char} (h : Whole ds)
    (hrest : EndsDigits rest) : whole? (ds ++ rest) = some (ds, rest) := by
  rcases h with rfl | ⟨d, more, hhead, hd, hdigits⟩
  · cases rest with
    | nil => rfl
    | cons c rest =>
        show (if c.isDigit then none else some (['0'], c :: rest)) =
            some (['0'], c :: rest)
        rw [show c.isDigit = false from hrest]
        rfl
  · have hread : digits? (ds ++ rest) = some (ds, rest) :=
      digits?_append hdigits
        (by rw [hhead]; exact List.cons_ne_nil d more) hrest
    rw [hhead] at hread ⊢
    rw [← hread, List.cons_append, whole?.eq_3]
    intro other heq
    injection heq with hzero _
    exact hd hzero

theorem fraction?_append {fraction : Option (List Char)} {rest : List Char}
    (h :
      forall ds, fraction = some ds ->
        ds ≠ [] ∧ forall c, c ∈ ds -> c.isDigit = true)
    (hrest : EndsFraction rest) :
    fraction? (fractionChars fraction ++ rest) = some (fraction, rest) := by
  cases fraction with
  | none =>
      show fraction? rest = some (none, rest)
      unfold fraction?
      split
      · exact absurd rfl hrest.right
      · rfl
  | some ds =>
      rcases h ds rfl with ⟨hsome, hdigits⟩
      show (digits? (ds ++ rest)).map _ = some (some ds, rest)
      rw [digits?_append hdigits hsome (endsDigits_of_endsFraction hrest)]
      rfl

theorem exponentDigits?_toDigits (negative : Bool) (n : Nat) {rest : List Char}
    (hrest : EndsDigits rest) :
    exponentDigits? negative (Nat.toDigits 10 n ++ rest) =
      some (some (if negative then -(n : Int) else n), rest) := by
  unfold exponentDigits?
  rw [digits?_append (fun c hc => isDigit_of_mem_toDigits hc)
    Nat.toDigits_ne_nil hrest]
  simp only [Option.map_some, Nat.ofDigitChars_ten_toDigits]

theorem exponent?_append (exponent : Option Int) {rest : List Char}
    (h : Stops rest) :
    exponent? (exponentChars exponent ++ rest) = some (exponent, rest) := by
  cases exponent with
  | none =>
      cases rest with
      | nil => rfl
      | cons c rest =>
          rcases of_extendsNumeral h with ⟨_, _, hlower, hupper⟩
          simp [exponentChars, exponent?, hlower, hupper]
  | some e =>
      have hread := fun negative =>
        exponentDigits?_toDigits negative e.natAbs (endsDigits_of_stops h)
      rw [exponentChars]
      by_cases hneg : e < 0
      · have hback : -(e.natAbs : Int) = e := by lia
        rw [if_pos hneg]
        show exponentDigits? true (Nat.toDigits 10 e.natAbs ++ rest) =
            some (some e, rest)
        rw [hread true, if_pos rfl, hback]
      · have hback : (e.natAbs : Int) = e := by lia
        rw [if_neg hneg]
        show exponentDigits? false (Nat.toDigits 10 e.natAbs ++ rest) =
            some (some e, rest)
        rw [hread false, if_neg (by decide), hback]

theorem unsigned?_unsignedChars {n : Numeral} (h : n.Proper) (negative : Bool)
    {rest : List Char} (hrest : Stops rest) :
    unsigned? negative (n.unsignedChars ++ rest) =
      some (⟨negative, n.whole, n.fraction, n.exponent⟩, rest) := by
  have hexponent := endsFraction_exponentChars n.exponent hrest
  have hfraction := endsDigits_fractionChars n.fraction hexponent
  unfold unsigned? unsignedChars
  rw [List.append_assoc, List.append_assoc, whole?_append h.whole hfraction]
  show Option.bind (fraction? _) _ = _
  rw [fraction?_append h.fraction hexponent]
  show Option.bind (exponent? _) _ = _
  rw [exponent?_append n.exponent hrest]
  rfl

theorem read?_chars {n : Numeral} (h : n.Proper) {rest : List Char}
    (hrest : Stops rest) : read? (n.chars ++ rest) = some (n, rest) := by
  have hunsigned := unsigned?_unsignedChars h n.negative hrest
  unfold chars
  cases hnegative : n.negative with
  | true =>
      rw [hnegative] at hunsigned
      rw [if_pos rfl, List.cons_append]
      show unsigned? true (n.unsignedChars ++ rest) = some (n, rest)
      rw [hunsigned, ← hnegative]
  | false =>
      rw [hnegative] at hunsigned
      rcases h.whole.exists_head with ⟨d, more, hwhole, hd⟩
      rw [if_neg (by decide), read?.eq_2, hunsigned, ← hnegative]
      -- The first character is a digit, not the sign.
      intro other heq
      rw [unsignedChars, hwhole] at heq
      injection heq with hminus _
      rw [hminus] at hd
      cases hd

/-!
## Integers
-/

def ofInt (n : Int) : Numeral :=
  ⟨decide (n < 0), Nat.toDigits 10 n.natAbs, none, none⟩

theorem proper_ofInt (n : Int) : (ofInt n).Proper where
  whole := whole_toDigits n.natAbs
  fraction ds heq := by cases heq

theorem chars_ofInt (n : Int) : (ofInt n).chars = intChars n := by
  have hunsigned : (ofInt n).unsignedChars = Nat.toDigits 10 n.natAbs :=
    List.append_nil _
  have hnegative : (ofInt n).negative = decide (n < 0) := rfl
  unfold chars intChars
  rw [hunsigned, hnegative]
  simp only [decide_eq_true_eq]

theorem number?_of_integer (n : Int)
    (h : -0x8000000000000000 ≤ n ∧ n < 0x10000000000000000) :
    number? (ofInt n) = some (.integer n h) := by
  have hmagnitude :
      Nat.ofDigitChars 10 (Nat.toDigits 10 n.natAbs) 0 = n.natAbs :=
    Nat.ofDigitChars_toDigits (by decide) (by decide)
  have hinteger : integer? (ofInt n) = some (.integer n h) := by
    unfold integer? ofInt
    simp only [hmagnitude, Option.isNone_none, Bool.and_self, if_true,
      decide_eq_true_eq]
    by_cases hneg : n < 0
    · have hback : -(n.natAbs : Int) = n := by lia
      rw [if_pos hneg, dif_pos (by lia)]
      simp only [hback]
    · have hback : (n.natAbs : Int) = n := by lia
      rw [if_neg hneg, dif_pos (by lia)]
      simp only [hback]
  unfold number?
  rw [hinteger]

end Numeral

end Json
end Reshape
