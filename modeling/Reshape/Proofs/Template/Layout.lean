import Reshape.Proofs.Template.Scan

/-!
# Layouts

A template that can be cut has exactly one layout: texts in which nothing opens,
and between them the contents of placeholders that close where they should.  Its
spans are read off the layout, each placeholder with the byte at which it
stands.
-/

namespace Reshape
namespace Template

/-- A template as its texts and the contents of its placeholders in turn. -/
inductive Layout where
  | text (cs : List Char)
  | placeholder (before content : List Char) (rest : Layout)

namespace Layout

def chars : Layout -> List Char
  | text cs => cs
  | placeholder before content rest =>
      before ++ '$' :: '\x7b' :: (content ++ '\x7d' :: rest.chars)

def spans (position : Nat) : Layout -> List Span
  | text cs => textSpan cs
  | placeholder before content rest =>
      textSpan before ++ .placeholder content (position + byteLength before) ::
        rest.spans (position + byteLength before + byteLength content + 3)

def Proper : Layout -> Prop
  | text cs => Plain cs
  | placeholder before content rest =>
      Plain before ∧ Closed content ∧ rest.Proper

end Layout

/-!
## One placeholder
-/

theorem byteLength_placeholder (before content rest : List Char) :
    byteLength (before ++ '$' :: '\x7b' :: (content ++ '\x7d' :: rest)) =
      byteLength before + byteLength content + 3 + byteLength rest := by
  have hdollar : Char.utf8Size '$' = 1 := rfl
  have hopening : Char.utf8Size '\x7b' = 1 := rfl
  have hclosing : Char.utf8Size '\x7d' = 1 := rfl
  simp only [byteLength_append, byteLength, hdollar, hopening, hclosing]
  lia

theorem spans_of_plain {cs : List Char} (h : breakAtOpening cs = none)
    (total : Nat) : spans total cs = .ok (textSpan cs) := by
  unfold spans
  split
  · rfl
  · rename_i hsome
    rw [h] at hsome
    cases hsome

theorem spans_of_unclosed {cs before after : List Char}
    (h : breakAtOpening cs = some (before, after))
    (hclosing : breakAtClosing after = none) (total : Nat) :
    spans total cs = .error (total - byteLength cs + byteLength before) := by
  unfold spans
  split
  · rename_i hnone
    rw [h] at hnone
    cases hnone
  · rename_i hsome
    rw [h] at hsome
    cases hsome
    split
    · rfl
    · rename_i hclosed
      rw [hclosing] at hclosed
      cases hclosed

theorem spans_of_closed {cs before after content rest : List Char}
    (h : breakAtOpening cs = some (before, after))
    (hclosing : breakAtClosing after = some (content, rest)) (total : Nat) :
    spans total cs =
      (spans total rest).map fun more =>
        textSpan before ++
          .placeholder content (total - byteLength cs + byteLength before) ::
            more := by
  rw [spans]
  split
  · rename_i hnone
    rw [h] at hnone
    cases hnone
  · rename_i hsome
    rw [h] at hsome
    cases hsome
    split
    · rename_i hunclosed
      rw [hclosing] at hunclosed
      cases hunclosed
    · rename_i hclosed
      rw [hclosing] at hclosed
      cases hclosed
      cases spans total rest <;> rfl

/-!
## The spans of a layout
-/

/-- A layout that is proper is cut where it was put together. -/
theorem spans_chars {layout : Layout} (h : layout.Proper) (position : Nat) :
    spans (position + byteLength layout.chars) layout.chars =
      .ok (layout.spans position) := by
  induction layout generalizing position with
  | text cs => exact spans_of_plain (breakAtOpening_eq_none_iff.mpr h) _
  | placeholder before content rest ih =>
      rcases h with ⟨hbefore, hcontent, hrest⟩
      have hopening := breakAtOpening_eq_some_iff.mpr
        ⟨rfl (a := (Layout.placeholder before content rest).chars), hbefore⟩
      have hclosing : breakAtClosing (content ++ '\x7d' :: rest.chars) =
          some (content, rest.chars) :=
        breakAtClosing_eq_some_iff.mpr ⟨rfl, hcontent⟩
      have htotal :
          position + byteLength (Layout.placeholder before content rest).chars =
            position + byteLength before + byteLength content + 3 +
              byteLength rest.chars := by
        rw [Layout.chars, byteLength_placeholder]
        lia
      rw [spans_of_closed hopening hclosing, Nat.add_sub_cancel, htotal,
        ih hrest]
      rfl

theorem exists_layout {position : Nat} {cs : List Char} {found : List Span}
    (h : spans (position + byteLength cs) cs = .ok found) :
    exists layout : Layout, layout.Proper ∧ layout.chars = cs ∧
      found = layout.spans position := by
  induction hlength : cs.length using Nat.strongRecOn
    generalizing position cs found with
  | ind n ih =>
      cases hopening : breakAtOpening cs with
      | none =>
          rw [spans_of_plain hopening] at h
          cases h
          exact ⟨.text cs, breakAtOpening_eq_none_iff.mp hopening, rfl, rfl⟩
      | some read =>
          rcases read with ⟨before, after⟩
          cases hclosing : breakAtClosing after with
          | none =>
              rw [spans_of_unclosed hopening hclosing] at h
              cases h
          | some read =>
              rcases read with ⟨content, rest⟩
              rw [spans_of_closed hopening hclosing, Nat.add_sub_cancel] at h
              have hshorter := length_breakAtOpening hopening
              have hshorter' := length_breakAtClosing hclosing
              rcases breakAtOpening_eq_some_iff.mp hopening with ⟨hcs, hbefore⟩
              rcases breakAtClosing_eq_some_iff.mp hclosing with
                ⟨hafter, hcontent⟩
              have htotal : position + byteLength cs =
                  position + byteLength before + byteLength content + 3 +
                    byteLength rest := by
                rw [hcs, hafter, byteLength_placeholder]
                lia
              rw [htotal] at h
              cases hmore : spans
                  (position + byteLength before + byteLength content + 3 +
                      byteLength rest)
                    rest with
              | error offset =>
                  rw [hmore] at h
                  cases h
              | ok more =>
                  rw [hmore] at h
                  cases h
                  rcases ih rest.length (by lia) hmore rfl with
                    ⟨layout, hlayout, hchars, rfl⟩
                  refine ⟨.placeholder before content layout,
                    ⟨hbefore, hcontent, hlayout⟩, ?_, rfl⟩
                  rw [Layout.chars, hchars, hcs, hafter]

theorem split_eq_ok_iff {raw : String} {found : List Span} :
    split raw = .ok found <->
      exists layout : Layout,
        layout.Proper ∧ layout.chars = raw.toList ∧ found = layout.spans 0 := by
  unfold split
  constructor
  · intro h
    rw [← Nat.zero_add (byteLength raw.toList)] at h
    exact exists_layout h
  · intro h
    rcases h with ⟨layout, hlayout, hchars, rfl⟩
    have hspans := spans_chars hlayout 0
    rw [hchars, Nat.zero_add] at hspans
    exact hspans

end Template
end Reshape
