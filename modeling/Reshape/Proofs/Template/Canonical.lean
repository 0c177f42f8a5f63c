import Reshape.Proofs.Template.Content
import Reshape.Proofs.Template.Layout
import Reshape.Template.Plan

/-!
# Templates as rows of spans

A template is put together from its spans, and a row of spans is what a template
is cut into exactly if it is canonical: no text is empty, holds an opening or
stands beside another text, each placeholder tells the byte at which it stands,
and its content leaves no literal open and has its closing braces in literals.
So each template has one canonical row at most, and the cut fails if there is
none.
-/

namespace Reshape
namespace Template

open Unicode

/-!
## Contents by their characters
-/

/-- A content with its string literals one after another.  A brace that closes
stands in a literal, and every literal has its end. -/
inductive Enclosed : List Char -> Prop
  | nil : Enclosed []
  | plain {c : Char} {cs : List Char} (quiet : Quiet c) (rest : Enclosed cs) :
      Enclosed (c :: cs)
  | literal {quote : Char} (kind : quote = '"' ∨ quote = '\x27')
      {content inner cs : List Char} (escaped : Escaped quote content inner)
      (rest : Enclosed cs) : Enclosed (quote :: (inner ++ quote :: cs))

/-- The search through the bytes of a literal finds the end that its characters
have. -/
theorem through_inside_eq_outside {quote : Char} (hascii : quote.toNat < 0x80)
    (hbackslash : quote ≠ '\\') {cs : List Char}
    (h : (Scan.inside quote.toUInt8).through (Utf8.encode cs) = some .outside) :
    exists content rest, literal? quote cs = some (content, rest) ∧
      Closed rest := by
  have hslash : Char.toNat '\\' < 0x80 := by decide
  fun_induction literal? quote cs with
  | case1 => cases h
  | case2 =>
      rw [Utf8.encode_cons_of_ascii hslash, Scan.through, if_neg (by simp),
        Scan.next, if_pos rfl] at h
      cases h
  | case3 c rest ih =>
      rw [Utf8.encode_cons_of_ascii hslash, Scan.through, if_neg (by simp),
        Scan.next, if_pos rfl, through_escaped hascii] at h
      rcases ih h with ⟨content, left, hread, hclosed⟩
      exact ⟨c :: content, left, by rw [hread]; rfl, hclosed⟩
  | case4 rest =>
      rw [Utf8.encode_cons_of_ascii hascii, Scan.through, if_neg (by simp),
        Scan.next, if_neg (Utf8.toUInt8_ne hascii hslash hbackslash),
        if_pos rfl] at h
      exact ⟨[], rest, rfl, h⟩
  | case5 c rest hend hescape hc ih =>
      have hplain := ne_backslash_of_not_escape hend hescape
      rw [through_inside hascii hplain hc] at h
      rcases ih h with ⟨content, left, hread, hclosed⟩
      exact ⟨c :: content, left, by rw [hread]; rfl, hclosed⟩

theorem enclosed_of_closed {content : List Char} (h : Closed content) :
    Enclosed content := by
  -- On the length, because a literal takes many characters in one step.
  induction hlength : content.length using Nat.strongRecOn
    generalizing content with
  | ind n ih =>
      cases content with
      | nil => exact .nil
      | cons c rest =>
          rw [List.length_cons] at hlength
          by_cases hquiet : Quiet c
          · rw [Closed, through_of_quiet hquiet] at h
            exact .plain hquiet (ih rest.length (by lia) h rfl)
          · have hcases : c = '\x7d' ∨ c = '"' ∨ c = '\x27' := by
              unfold Quiet at hquiet
              tauto
            rcases hcases with rfl | hquote
            · cases h
            · rw [Closed, through_quote hquote] at h
              have hbackslash := ne_backslash_of_quote hquote
              rcases through_inside_eq_outside (ascii_of_quote hquote)
                hbackslash h with
                ⟨inside, after, hread, hafter⟩
              have hshorter := length_literal? hread
              rcases (literal?_eq_some_iff hbackslash).mp hread with
                ⟨inner, rfl, hinner⟩
              exact .literal hquote hinner (ih after.length (by lia) hafter rfl)

theorem closed_iff_enclosed {content : List Char} :
    Closed content <-> Enclosed content := by
  constructor
  · exact enclosed_of_closed
  · intro h
    induction h with
    | nil => rfl
    | plain quiet _ ih => exact closed_cons_of_quiet quiet ih
    | literal kind escaped _ ih => exact closed_of_escaped kind escaped ih

/-!
## Canonical rows
-/

def Span.chars : Span -> List Char
  | .text cs => cs
  | .placeholder content _ => '$' :: '\x7b' :: (content ++ ['\x7d'])

def Span.Placed (position : Nat) : Span -> Prop
  | .text cs => cs ≠ [] ∧ Plain cs
  | .placeholder content offset => Enclosed content ∧ offset = position

/-- A row of spans that begins at a byte. -/
structure CanonicalFrom (position : Nat) (found : List Span) : Prop where
  placed : forall before span after, found = before ++ span :: after ->
    span.Placed (position + byteLength (before.flatMap Span.chars))
  apart : found.IsChain fun a b => Not (a.isText = true ∧ b.isText = true)

def Canonical (found : List Span) : Prop :=
  CanonicalFrom 0 found

theorem canonicalFrom_nil (position : Nat) : CanonicalFrom position [] where
  placed before span after h := by cases before <;> cases h
  apart := .nil

theorem canonicalFrom_cons_iff {position : Nat} {span : Span}
    {rest : List Span} :
    CanonicalFrom position (span :: rest) <->
      span.Placed position ∧
        (forall next, rest.head? = some next ->
          Not (span.isText = true ∧ next.isText = true)) ∧
        CanonicalFrom (position + byteLength span.chars) rest := by
  constructor
  · intro h
    rcases List.isChain_cons.mp h.apart with ⟨hnext, hrest⟩
    refine ⟨h.placed [] span rest rfl, hnext, ?_, hrest⟩
    intro before later after heq
    have hplaced :=
      h.placed (span :: before) later after (congrArg (List.cons span) heq)
    rw [List.flatMap_cons, byteLength_append, ← Nat.add_assoc] at hplaced
    exact hplaced
  · rintro ⟨hspan, hnext, hrest⟩
    refine ⟨?_, List.isChain_cons.mpr ⟨hnext, hrest.apart⟩⟩
    intro before later after heq
    cases before with
    | nil =>
        cases heq
        exact hspan
    | cons first before =>
        injection heq with hfirst heq
        subst hfirst
        rw [List.flatMap_cons, byteLength_append, ← Nat.add_assoc]
        exact hrest.placed before later after heq

/-!
## Rows and layouts
-/

theorem byteLength_placeholder_chars (content : List Char) (offset : Nat) :
    byteLength (Span.placeholder content offset).chars =
      byteLength content + 3 := by
  have hlength := byteLength_placeholder [] content []
  rw [List.nil_append] at hlength
  show byteLength ('$' :: '\x7b' :: (content ++ ['\x7d'])) =
      byteLength content + 3
  rw [hlength]
  show 0 + byteLength content + 3 + 0 = byteLength content + 3
  lia

theorem canonicalFrom_placeholder_cons_iff {position offset : Nat}
    {content : List Char} {rest : List Span} :
    CanonicalFrom position (.placeholder content offset :: rest) <->
      Enclosed content ∧ offset = position ∧
        CanonicalFrom (position + byteLength content + 3) rest := by
  rw [canonicalFrom_cons_iff, byteLength_placeholder_chars, ← Nat.add_assoc]
  constructor
  · rintro ⟨⟨hcontent, hoffset⟩, _, hrest⟩
    exact ⟨hcontent, hoffset, hrest⟩
  · rintro ⟨hcontent, hoffset, hrest⟩
    refine ⟨⟨hcontent, hoffset⟩, ?_, hrest⟩
    intro next _ htexts
    cases htexts.left

theorem flatMap_chars_textSpan (cs : List Char) :
    (textSpan cs).flatMap Span.chars = cs := by
  cases cs with
  | nil => rfl
  | cons c rest => exact List.append_nil _

theorem canonicalFrom_textSpan_append {position : Nat} {cs : List Char}
    {rest : List Span} (hcs : Plain cs)
    (hnext : forall next, rest.head? = some next -> next.isText = false)
    (hrest : CanonicalFrom (position + byteLength cs) rest) :
    CanonicalFrom position (textSpan cs ++ rest) := by
  cases cs with
  | nil => exact hrest
  | cons c cs =>
      refine canonicalFrom_cons_iff.mpr
        ⟨⟨List.cons_ne_nil c cs, hcs⟩, ?_, hrest⟩
      intro next hhead htexts
      rw [hnext next hhead] at htexts
      cases htexts.right

theorem canonicalFrom_spans {layout : Layout} (h : layout.Proper)
    (position : Nat) : CanonicalFrom position (layout.spans position) := by
  induction layout generalizing position with
  | text cs =>
      rw [Layout.spans, ← List.append_nil (textSpan cs)]
      exact canonicalFrom_textSpan_append h (fun _ hnone => by cases hnone)
        (canonicalFrom_nil _)
  | placeholder before content rest ih =>
      rcases h with ⟨hbefore, hcontent, hrest⟩
      apply canonicalFrom_textSpan_append hbefore
      · intro next hhead
        cases hhead
        rfl
      · exact canonicalFrom_placeholder_cons_iff.mpr
          ⟨closed_iff_enclosed.mp hcontent, rfl, ih hrest _⟩

theorem flatMap_chars_spans (layout : Layout) (position : Nat) :
    (layout.spans position).flatMap Span.chars = layout.chars := by
  induction layout generalizing position with
  | text cs => exact flatMap_chars_textSpan cs
  | placeholder before content rest ih =>
      rw [Layout.spans, List.flatMap_append, flatMap_chars_textSpan,
        List.flatMap_cons, ih, Layout.chars, Span.chars, List.cons_append,
        List.cons_append, List.append_assoc]
      rfl

theorem textSpan_of_ne_nil {cs : List Char} (h : cs ≠ []) :
    textSpan cs = [.text cs] := by
  cases cs with
  | nil => exact absurd rfl h
  | cons c rest => rfl

theorem exists_layout_of_canonicalFrom {position : Nat} {found : List Span}
    (h : CanonicalFrom position found) :
    exists layout : Layout, layout.Proper ∧ layout.spans position = found := by
  match found, h with
  | [], _ => exact ⟨.text [], plain_nil, rfl⟩
  | .placeholder content offset :: rest, h =>
      rcases canonicalFrom_placeholder_cons_iff.mp h with ⟨hcontent, rfl, hrest⟩
      rcases exists_layout_of_canonicalFrom hrest with ⟨layout, hlayout, hspans⟩
      refine ⟨.placeholder [] content layout,
        ⟨plain_nil, closed_iff_enclosed.mpr hcontent, hlayout⟩, ?_⟩
      rw [← hspans]
      rfl
  | [.text cs], h =>
      rcases canonicalFrom_cons_iff.mp h with ⟨⟨hne, hplain⟩, _⟩
      exact ⟨.text cs, hplain, textSpan_of_ne_nil hne⟩
  | .text cs :: .placeholder content offset :: rest, h =>
      rcases canonicalFrom_cons_iff.mp h with ⟨⟨hne, hplain⟩, _, hlater⟩
      rcases canonicalFrom_placeholder_cons_iff.mp hlater with
        ⟨hcontent, rfl, hrest⟩
      rcases exists_layout_of_canonicalFrom hrest with ⟨layout, hlayout, hspans⟩
      refine ⟨.placeholder cs content layout,
        ⟨hplain, closed_iff_enclosed.mpr hcontent, hlayout⟩, ?_⟩
      rw [Layout.spans, textSpan_of_ne_nil hne, ← hspans]
      rfl
  | .text _ :: .text _ :: _, h =>
      rcases canonicalFrom_cons_iff.mp h with ⟨_, hnext, _⟩
      exact absurd ⟨rfl, rfl⟩ (hnext _ rfl)

/-!
## Cutting and putting together
-/

theorem split_eq_ok_iff_canonical {raw : String} {found : List Span} :
    split raw = .ok found <->
      Canonical found ∧ found.flatMap Span.chars = raw.toList := by
  rw [split_eq_ok_iff]
  constructor
  · rintro ⟨layout, hlayout, hchars, rfl⟩
    exact ⟨canonicalFrom_spans hlayout 0,
      (flatMap_chars_spans layout 0).trans hchars⟩
  · rintro ⟨hcanonical, hchars⟩
    rcases exists_layout_of_canonicalFrom hcanonical with ⟨layout, hlayout, rfl⟩
    exact ⟨layout, hlayout,
      (flatMap_chars_spans layout 0).symm.trans hchars, rfl⟩

/-- The cut is the canonical row of the template, every canonical row comes back
from the template that it puts together, and only a template without such a row
is not cut. -/
theorem split_canonical (raw : String) :
    (forall found, split raw = .ok found <->
        Canonical found ∧ found.flatMap Span.chars = raw.toList) ∧
      (forall found, Canonical found ->
        split (String.ofList (found.flatMap Span.chars)) = .ok found) ∧
      ((exists offset, split raw = .error offset) <->
        Not (exists found, Canonical found ∧
          found.flatMap Span.chars = raw.toList)) := by
  refine ⟨fun _ => split_eq_ok_iff_canonical, ?_, ?_⟩
  · intro found hcanonical
    exact split_eq_ok_iff_canonical.mpr ⟨hcanonical, String.toList_ofList.symm⟩
  · simp only [← split_eq_ok_iff_canonical]
    cases hsplit : split raw with
    | error offset => simp
    | ok found => simp

def assortedRow : List Span :=
  [.text ['é', '$'], .placeholder ['t', 'a', 'g'] 3,
    .placeholder ['"', '\x7d', '\\', '"', '\x27', '"'] 9,
    .text ['\x7b', '\x7d']]

theorem split_canonical_assorted :
    Canonical assortedRow ∧
      split "é$$\x7btag\x7d$\x7b\"\x7d\\\"\x27\"\x7d\x7b\x7d" =
        .ok assortedRow := by
  have hcanonical : Canonical assortedRow := by
    refine canonicalFrom_cons_iff.mpr
      ⟨⟨by decide, breakAtOpening_eq_none_iff.mp rfl⟩, ?_, ?_⟩
    · rintro next ⟨⟩
      decide
    refine canonicalFrom_placeholder_cons_iff.mpr
      ⟨closed_iff_enclosed.mp rfl, rfl, ?_⟩
    refine canonicalFrom_placeholder_cons_iff.mpr
      ⟨closed_iff_enclosed.mp rfl, rfl, ?_⟩
    refine canonicalFrom_cons_iff.mpr
      ⟨⟨by decide, breakAtOpening_eq_none_iff.mp rfl⟩, ?_, ?_⟩
    · rintro next ⟨⟩
    exact canonicalFrom_nil _
  exact ⟨hcanonical, (split_canonical "").right.left assortedRow hcanonical⟩

end Template
end Reshape
