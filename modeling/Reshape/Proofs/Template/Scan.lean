import Reshape.Proofs.Unicode.Utf8
import Reshape.Template.Span

/-!
# Where texts and placeholders end

A text ends at the first opening, and a placeholder at the first closing brace
outside of literals.  Both searches are characterized by what they pass over: a
text without an opening, and a content whose bytes take the search back to where
it began without meeting a brace.
-/

namespace Reshape
namespace Template

open Unicode

/-!
## Texts
-/

def Plain (cs : List Char) : Prop :=
  Not (['$', '\x7b'] <:+: cs)

theorem plain_nil : Plain [] := by
  intro h
  rcases h with ⟨before, after, h⟩
  cases before <;> cases h

theorem plain_of_plain_cons {c : Char} {cs : List Char} (h : Plain (c :: cs)) :
    Plain cs := by
  intro hopens
  exact h (List.IsInfix.trans hopens (List.suffix_cons c cs).isInfix)

theorem not_plain_opening (before after : List Char) :
    Not (Plain (before ++ '$' :: '\x7b' :: after)) := by
  intro h
  exact h ⟨before, after, by simp⟩

theorem plain_cons {c : Char} {cs : List Char} (hcs : Plain cs)
    (hc : forall rest, c :: cs ≠ '$' :: '\x7b' :: rest) : Plain (c :: cs) := by
  intro hopens
  rcases hopens with ⟨before, after, h⟩
  cases before with
  | nil => exact hc after h.symm
  | cons b before =>
      cases h
      exact hcs ⟨before, after, rfl⟩

theorem breakAtOpening_eq_none_iff {cs : List Char} :
    breakAtOpening cs = none <-> Plain cs := by
  fun_induction breakAtOpening cs with
  | case1 =>
      constructor
      · intro _
        exact plain_nil
      · intro _
        rfl
  | case2 rest =>
      constructor
      · intro h
        cases h
      · intro h
        exact absurd h (not_plain_opening [] rest)
  | case3 c rest hc ih =>
      rw [Option.map_eq_none_iff, ih]
      constructor
      · intro h
        apply plain_cons h
        intro after heq
        cases heq
        exact hc after rfl rfl
      · intro h
        exact plain_of_plain_cons h

theorem breakAtOpening_eq_some_iff {cs before after : List Char} :
    breakAtOpening cs = some (before, after) <->
      cs = before ++ '$' :: '\x7b' :: after ∧ Plain before := by
  fun_induction breakAtOpening cs generalizing before after with
  | case1 =>
      constructor
      · intro h
        cases h
      · intro h
        have hnil := h.left
        cases before <;> cases hnil
  | case2 rest =>
      constructor
      · intro h
        cases h
        exact ⟨rfl, plain_nil⟩
      · intro h
        rcases h with ⟨heq, hplain⟩
        cases before with
        | nil =>
            cases heq
            rfl
        | cons b before =>
            injection heq with hb heq
            subst hb
            cases before with
            | nil => cases heq
            | cons b' before =>
                injection heq with hb' heq
                subst hb'
                exact absurd hplain (not_plain_opening [] before)
  | case3 c rest hc ih =>
      rw [Option.map_eq_some_iff]
      constructor
      · intro h
        rcases h with ⟨⟨read, left⟩, hread, heq⟩
        cases heq
        rcases ih.mp hread with ⟨hrest, hplain⟩
        constructor
        · rw [hrest]
          rfl
        · apply plain_cons hplain
          intro opened heq
          cases heq
          exact hc (opened ++ '$' :: '\x7b' :: left) rfl hrest
      · intro h
        rcases h with ⟨heq, hplain⟩
        cases before with
        | nil =>
            cases heq
            exact absurd rfl (hc after rfl)
        | cons b before =>
            cases heq
            exact ⟨(before, after), ih.mpr ⟨rfl, plain_of_plain_cons hplain⟩,
              rfl⟩

/-!
## Bytes
-/

theorem byteLength_append (xs ys : List Char) :
    byteLength (xs ++ ys) = byteLength xs + byteLength ys := by
  induction xs with
  | nil => exact (Nat.zero_add (byteLength ys)).symm
  | cons c rest ih =>
      rw [List.cons_append, byteLength, byteLength, ih, Nat.add_assoc]

theorem length_encode (cs : List Char) :
    (Utf8.encode cs).length = byteLength cs := by
  induction cs with
  | nil => rfl
  | cons c rest ih =>
      rw [Utf8.encode_cons, List.length_append, String.length_utf8EncodeChar,
        ih, byteLength]

theorem breakAtByte_byteLength (before after : List Char) :
    breakAtByte (byteLength before) (before ++ after) = (before, after) := by
  induction before with
  | nil =>
      cases after <;> rfl
  | cons c rest ih =>
      have hpos := Char.utf8Size_pos c
      have hlength :
          byteLength (c :: rest) = c.utf8Size - 1 + byteLength rest + 1 := by
        rw [byteLength]
        lia
      have hrest : c.utf8Size - 1 + byteLength rest + 1 - c.utf8Size =
          byteLength rest := by
        lia
      rw [hlength, List.cons_append, breakAtByte, hrest, ih]

/-!
## Placeholders
-/

/-- Where the search stands after some bytes, unless it ended among them. -/
def Scan.through : Scan -> List UInt8 -> Option Scan
  | scan, [] => some scan
  | scan, b :: rest =>
      if scan = .outside && b = '\x7d'.toUInt8 then none
      else (scan.next b).through rest

def Closed (content : List Char) : Prop :=
  Scan.through .outside (Utf8.encode content) = some .outside

theorem through_append (scan : Scan) (xs ys : List UInt8) :
    scan.through (xs ++ ys) =
      (scan.through xs).bind fun reached => reached.through ys := by
  induction xs generalizing scan with
  | nil => rfl
  | cons b rest ih =>
      rw [List.cons_append, Scan.through, Scan.through]
      split
      · rfl
      · exact ih (scan.next b)

theorem closing?_eq_some_iff {scan : Scan} {bytes : List UInt8} {count : Nat} :
    closing? scan bytes = some count <->
      exists before after, bytes = before ++ '\x7d'.toUInt8 :: after ∧
        before.length = count ∧
        scan.through before = some .outside := by
  induction bytes generalizing scan count with
  | nil =>
      constructor
      · intro h
        cases h
      · intro h
        rcases h with ⟨before, after, hnil, _⟩
        cases before <;> cases hnil
  | cons b rest ih =>
      rw [closing?]
      split
      · rename_i hends
        simp only [Bool.and_eq_true, decide_eq_true_eq] at hends
        rcases hends with ⟨rfl, rfl⟩
        constructor
        · intro h
          cases h
          exact ⟨[], rest, rfl, rfl, rfl⟩
        · intro h
          rcases h with ⟨before, after, heq, hlength, hthrough⟩
          cases before with
          | nil => rw [← hlength, List.length_nil]
          | cons x before =>
              injection heq with hx heq
              subst hx
              rw [Scan.through, if_pos (by simp)] at hthrough
              cases hthrough
      · rename_i hgoes
        rw [Option.map_eq_some_iff]
        constructor
        · intro h
          rcases h with ⟨n, hn, rfl⟩
          rcases ih.mp hn with ⟨before, after, rfl, hlength, hthrough⟩
          refine ⟨b :: before, after, rfl, ?_, ?_⟩
          · rw [List.length_cons, hlength]
          · rw [Scan.through, if_neg hgoes]
            exact hthrough
        · intro h
          rcases h with ⟨before, after, heq, hlength, hthrough⟩
          cases before with
          | nil =>
              injection heq with hb _
              cases hthrough
              exact absurd (by simp [hb]) hgoes
          | cons x before =>
              injection heq with hx heq
              subst hx
              rw [Scan.through, if_neg hgoes] at hthrough
              exact ⟨before.length, ih.mpr ⟨before, after, heq, rfl, hthrough⟩,
                hlength⟩

theorem breakAtClosing_eq_some_iff {cs content after : List Char} :
    breakAtClosing cs = some (content, after) <->
      cs = content ++ '\x7d' :: after ∧ Closed content := by
  have hbrace : Char.toNat '\x7d' < 0x80 := by decide
  unfold breakAtClosing
  rw [Option.map_eq_some_iff]
  constructor
  · intro h
    rcases h with ⟨count, hcount, hread⟩
    rcases closing?_eq_some_iff.mp hcount with
      ⟨xs, ys, hbytes, hlength, hthrough⟩
    rcases Utf8.encode_eq_append_cons hbrace hbytes with
      ⟨before, rest, rfl, rfl, _⟩
    rw [length_encode] at hlength
    subst hlength
    rw [breakAtByte_byteLength] at hread
    cases hread
    exact ⟨rfl, hthrough⟩
  · intro h
    rcases h with ⟨rfl, hclosed⟩
    refine ⟨byteLength content, closing?_eq_some_iff.mpr ?_, ?_⟩
    · refine ⟨Utf8.encode content, Utf8.encode after, ?_,
        length_encode content, hclosed⟩
      rw [Utf8.encode_append, Utf8.encode_cons_of_ascii hbrace]
    · rw [breakAtByte_byteLength]
      rfl

end Template
end Reshape
