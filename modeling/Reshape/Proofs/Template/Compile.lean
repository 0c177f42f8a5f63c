import Reshape.Proofs.Template.Content
import Reshape.Proofs.Template.Layout
import Reshape.Template.Plan

/-!
# What templates compile to

A template compiles exactly when it is made of texts in which nothing opens and
of placeholders whose contents spell expressions.  The plan says what it is made
of: the texts that are not empty and the expressions, in order.
-/

namespace Reshape
namespace Template

/-!
## Templates put together
-/

/-- A placeholder with the expression that its source spells, and the text after
it. -/
structure Piece where
  source : String
  expr : Expr
  text : String

def Piece.Proper (piece : Piece) : Prop :=
  Expr.parse piece.source = .ok piece.expr ∧ Plain piece.text.toList

def written (first : String) : List Piece -> String
  | [] => first
  | piece :: rest =>
      first ++ "$\x7b" ++ piece.source ++ "\x7d" ++ written piece.text rest

def literalSegment (text : String) : List Segment :=
  if text = "" then [] else [.literal text]

def segmentsOf (first : String) : List Piece -> List Segment
  | [] => literalSegment first
  | piece :: rest =>
      literalSegment first ++ .expr piece.expr :: segmentsOf piece.text rest

def planOf (first : String) : List Piece -> Plan
  | [] => .literal first
  | [piece] =>
      if first = "" ∧ piece.text = "" then .raw piece.expr
      else .template (segmentsOf first [piece])
  | pieces => .template (segmentsOf first pieces)

def layoutOf (first : String) : List Piece -> Layout
  | [] => .text first.toList
  | piece :: rest =>
      .placeholder first.toList piece.source.toList (layoutOf piece.text rest)

theorem chars_layoutOf (first : String) (pieces : List Piece) :
    (layoutOf first pieces).chars = (written first pieces).toList := by
  induction pieces generalizing first with
  | nil => rfl
  | cons piece rest ih =>
      rw [layoutOf, Layout.chars, ih, written]
      simp

theorem proper_layoutOf {first : String} {pieces : List Piece}
    (hfirst : Plain first.toList)
    (hpieces : forall piece, piece ∈ pieces -> piece.Proper) :
    (layoutOf first pieces).Proper := by
  induction pieces generalizing first with
  | nil => exact hfirst
  | cons piece rest ih =>
      rcases hpieces piece List.mem_cons_self with ⟨hparse, htext⟩
      refine ⟨hfirst, closed_of_parse hparse, ih htext ?_⟩
      intro later hlater
      exact hpieces later (List.mem_cons_of_mem piece hlater)

/-!
## Segments
-/

theorem parsePlaceholder_eq_ok_iff {content : List Char} {offset : Nat}
    {e : Expr} :
    parsePlaceholder content offset = .ok e <->
      Expr.parse (String.ofList content) = .ok e := by
  unfold parsePlaceholder
  cases Expr.parse (String.ofList content) with
  | error cause =>
      constructor <;>
        · intro h
          cases h
  | ok found =>
      constructor <;>
        · intro h
          cases h
          rfl

theorem ofSpan_placeholder {content : List Char} {offset : Nat} {e : Expr}
    (h : parsePlaceholder content offset = .ok e) :
    Segment.ofSpan (.placeholder content offset) = .ok (.expr e) := by
  rw [Segment.ofSpan, h]
  rfl

theorem parse_of_ofSpan {content : List Char} {offset : Nat} {segment : Segment}
    (h : Segment.ofSpan (.placeholder content offset) = .ok segment) :
    exists e, Expr.parse (String.ofList content) = .ok e := by
  rw [Segment.ofSpan] at h
  rcases except_bind_eq_ok h with ⟨e, he, _⟩
  exact ⟨e, parsePlaceholder_eq_ok_iff.mp he⟩

theorem mapM_textSpan (text : String) :
    (textSpan text.toList).mapM Segment.ofSpan = .ok (literalSegment text) := by
  unfold textSpan literalSegment
  by_cases h : text = ""
  · rw [h]
    rfl
  · have hempty : text.toList.isEmpty = false := by
      simpa using h
    rw [if_neg h, hempty]
    show Except.ok [Segment.literal (String.ofList text.toList)] = _
    rw [String.ofList_toList]

theorem mapM_spans_layoutOf (first : String) {pieces : List Piece}
    (hpieces : forall piece, piece ∈ pieces -> piece.Proper) (position : Nat) :
    ((layoutOf first pieces).spans position).mapM Segment.ofSpan =
      .ok (segmentsOf first pieces) := by
  induction pieces generalizing first position with
  | nil => exact mapM_textSpan first
  | cons piece rest ih =>
      have hrest : forall later, later ∈ rest -> later.Proper := by
        intro later hlater
        exact hpieces later (List.mem_cons_of_mem piece hlater)
      have hparse := (hpieces piece List.mem_cons_self).left
      rw [← String.ofList_toList (s := piece.source)] at hparse
      rw [layoutOf, Layout.spans, List.mapM_append, mapM_textSpan,
        mapM_cons_of_ok
          (ofSpan_placeholder (parsePlaceholder_eq_ok_iff.mpr hparse)),
        ih piece.text hrest]
      rfl

theorem exists_pieces {layout : Layout} (hlayout : layout.Proper)
    {position : Nat} {segments : List Segment}
    (h : (layout.spans position).mapM Segment.ofSpan = .ok segments) :
    exists first pieces, layout = layoutOf first pieces ∧ Plain first.toList ∧
      forall piece, piece ∈ pieces -> piece.Proper := by
  induction layout generalizing position segments with
  | text cs =>
      refine ⟨String.ofList cs, [], ?_, ?_, ?_⟩
      · rw [layoutOf, String.toList_ofList]
      · rw [String.toList_ofList]
        exact hlayout
      · intro piece hpiece
        cases hpiece
  | placeholder before content rest ih =>
      rcases hlayout with ⟨hbefore, _, hrest⟩
      rw [Layout.spans, List.mapM_append] at h
      rcases except_bind_eq_ok h with ⟨_, _, h⟩
      rcases except_bind_eq_ok h with ⟨more, hmore, _⟩
      rcases mapM_cons_eq_ok hmore with ⟨segment, others, hsegment, hothers, _⟩
      rcases parse_of_ofSpan hsegment with ⟨e, hparse⟩
      rcases ih hrest hothers with ⟨text, pieces, hlayout, htext, hpieces⟩
      refine ⟨String.ofList before, ⟨String.ofList content, e, text⟩ :: pieces,
        ?_, ?_, ?_⟩
      · rw [layoutOf, String.toList_ofList, String.toList_ofList, hlayout]
      · rw [String.toList_ofList]
        exact hbefore
      · intro piece hpiece
        rcases List.mem_cons.mp hpiece with rfl | hlater
        · exact ⟨hparse, htext⟩
        · exact hpieces piece hlater

/-!
## Plans
-/

theorem ofSpans_texts {spans : List Span} (h : spans.all Span.isText = true)
    (raw : String) : Plan.ofSpans raw spans = .ok (.literal raw) := by
  unfold Plan.ofSpans
  split
  · cases h
  · rw [if_pos h]

theorem ofSpans_template {spans : List Span} (h : spans.all Span.isText = false)
    (hlone : forall content offset, spans ≠ [.placeholder content offset])
    (raw : String) :
    Plan.ofSpans raw spans = (spans.mapM Segment.ofSpan).map .template := by
  unfold Plan.ofSpans
  split
  · rename_i content offset
    exact absurd rfl (hlone content offset)
  · rw [h]
    cases spans.mapM Segment.ofSpan <;> rfl

theorem mapM_of_texts {spans : List Span} (h : spans.all Span.isText = true) :
    exists segments, spans.mapM Segment.ofSpan = .ok segments := by
  induction spans with
  | nil => exact ⟨[], rfl⟩
  | cons span rest ih =>
      rw [List.all_cons, Bool.and_eq_true] at h
      rcases h with ⟨hspan, hrest⟩
      rcases ih hrest with ⟨segments, hsegments⟩
      cases span with
      | placeholder content offset => cases hspan
      | text cs =>
          exists .literal (String.ofList cs) :: segments
          have htext : Segment.ofSpan (.text cs) =
              .ok (.literal (String.ofList cs)) := rfl
          rw [mapM_cons_of_ok htext, hsegments]
          rfl

theorem mapM_of_ofSpans {raw : String} {spans : List Span} {plan : Plan}
    (h : Plan.ofSpans raw spans = .ok plan) :
    exists segments, spans.mapM Segment.ofSpan = .ok segments := by
  unfold Plan.ofSpans at h
  split at h
  · rename_i content offset
    rcases except_bind_eq_ok h with ⟨e, he, _⟩
    exists [.expr e]
    rw [mapM_cons_of_ok (ofSpan_placeholder he)]
    rfl
  · split at h
    · rename_i htexts
      exact mapM_of_texts htexts
    · rcases except_bind_eq_ok h with ⟨segments, hsegments, _⟩
      exact ⟨segments, hsegments⟩

theorem isText_textSpan (cs : List Char) :
    (textSpan cs).all Span.isText = true := by
  unfold textSpan
  split <;> rfl

theorem textSpan_toList_eq_nil_iff {text : String} :
    textSpan text.toList = [] <-> text = "" := by
  unfold textSpan
  by_cases h : text = ""
  · rw [h]
    simp
  · simp [h]

theorem spans_layoutOf_eq_nil {text : String} {pieces : List Piece}
    {position : Nat} (h : (layoutOf text pieces).spans position = []) :
    pieces = [] ∧ text = "" := by
  cases pieces with
  | nil => exact ⟨rfl, textSpan_toList_eq_nil_iff.mp h⟩
  | cons piece rest =>
      rw [layoutOf, Layout.spans, List.append_eq_nil_iff] at h
      cases h.right

theorem spans_layoutOf_eq_lone {first : String} {piece : Piece}
    {rest : List Piece} {position offset : Nat} {content : List Char}
    (h : (layoutOf first (piece :: rest)).spans position =
      [.placeholder content offset]) :
    first = "" ∧ rest = [] ∧ piece.text = "" := by
  rw [layoutOf, Layout.spans] at h
  have hlength := congrArg List.length h
  rw [List.length_append, List.length_cons, List.length_singleton] at hlength
  have hfirst : (textSpan first.toList).length = 0 := by lia
  have hrest :
      ((layoutOf piece.text rest).spans
          (position + byteLength first.toList + byteLength piece.source.toList +
            3)).length =
        0 := by
    lia
  rcases spans_layoutOf_eq_nil (List.length_eq_zero_iff.mp hrest) with
    ⟨hnone, htext⟩
  exact ⟨textSpan_toList_eq_nil_iff.mp (List.length_eq_zero_iff.mp hfirst),
    hnone, htext⟩

theorem ofSpans_layoutOf (first : String) {pieces : List Piece}
    (hpieces : forall piece, piece ∈ pieces -> piece.Proper) (position : Nat) :
    Plan.ofSpans (written first pieces)
        ((layoutOf first pieces).spans position) =
      .ok (planOf first pieces) := by
  have hsegments := mapM_spans_layoutOf first hpieces position
  cases pieces with
  | nil => exact ofSpans_texts (isText_textSpan first.toList) first
  | cons piece rest =>
      have htexts :
          ((layoutOf first (piece :: rest)).spans position).all Span.isText =
            false := by
        rw [layoutOf, Layout.spans, List.all_append, List.all_cons]
        exact Bool.and_false _
      by_cases hlone : first = "" ∧ rest = [] ∧ piece.text = ""
      · rcases hlone with ⟨rfl, rfl, htext⟩
        have hparse := (hpieces piece List.mem_cons_self).left
        rw [← String.ofList_toList (s := piece.source)] at hparse
        rw [planOf, if_pos ⟨rfl, htext⟩, layoutOf, layoutOf, htext]
        show Plan.ofSpans _ [.placeholder piece.source.toList (position + 0)] =
            _
        rw [Plan.ofSpans, parsePlaceholder_eq_ok_iff.mpr hparse]
        rfl
      · have hplan : planOf first (piece :: rest) =
            .template (segmentsOf first (piece :: rest)) := by
          cases rest with
          | nil =>
              rw [planOf, if_neg]
              intro hboth
              exact hlone ⟨hboth.left, rfl, hboth.right⟩
          | cons next rest => rfl
        rw [ofSpans_template htexts, hsegments, hplan]
        · rfl
        · intro content offset h
          exact hlone (spans_layoutOf_eq_lone h)

/-!
## Compiling
-/

theorem compile_written {first : String} {pieces : List Piece}
    (hfirst : Plain first.toList)
    (hpieces : forall piece, piece ∈ pieces -> piece.Proper) :
    Plan.compile (written first pieces) = .ok (planOf first pieces) := by
  have hsplit :
      split (written first pieces) = .ok ((layoutOf first pieces).spans 0) :=
    split_eq_ok_iff.mpr
      ⟨layoutOf first pieces, proper_layoutOf hfirst hpieces,
        chars_layoutOf first pieces, rfl⟩
  unfold Plan.compile
  rw [hsplit]
  exact ofSpans_layoutOf first hpieces 0

theorem compile_eq_ok_iff (raw : String) (plan : Plan) :
    Plan.compile raw = .ok plan <->
      exists first pieces, raw = written first pieces ∧ Plain first.toList ∧
        (forall piece, piece ∈ pieces -> piece.Proper) ∧
          plan = planOf first pieces := by
  constructor
  · intro h
    unfold Plan.compile at h
    cases hsplit : split raw with
    | error offset =>
        rw [hsplit] at h
        cases h
    | ok found =>
        rw [hsplit] at h
        rcases split_eq_ok_iff.mp hsplit with ⟨layout, hlayout, hchars, rfl⟩
        rcases mapM_of_ofSpans h with ⟨segments, hsegments⟩
        rcases exists_pieces hlayout hsegments with
          ⟨first, pieces, rfl, hfirst, hpieces⟩
        rw [chars_layoutOf, String.toList_inj] at hchars
        subst hchars
        have hplan := ofSpans_layoutOf first hpieces 0
        simp only at h
        rw [hplan] at h
        cases h
        exact ⟨first, pieces, rfl, hfirst, hpieces, rfl⟩
  · intro h
    rcases h with ⟨first, pieces, rfl, hfirst, hpieces, rfl⟩
    have hsplit :
        split (written first pieces) = .ok ((layoutOf first pieces).spans 0) :=
      split_eq_ok_iff.mpr
        ⟨layoutOf first pieces, proper_layoutOf hfirst hpieces,
          chars_layoutOf first pieces, rfl⟩
    unfold Plan.compile
    rw [hsplit]
    exact ofSpans_layoutOf first hpieces 0

end Template
end Reshape
