import Mathlib.Data.List.Perm.Basic
import Reshape.Proofs.Except
import Reshape.Template.Evaluation

/-!
# Texts put together from a template

The parts of a template give their bytes in order.  Only a part with a byte
beyond ASCII has a say in the charset: where all of these are in one charset the
text is in it too, and where two of them differ it is binary.  So the charset
does not depend on the order of the parts, although it is worked out from one
part to the next.
-/

namespace Reshape

/-!
## The charset of texts put together
-/

namespace Text

def Speaks (parts : List Text) (charset : Charset) : Prop :=
  exists part, part ∈ parts ∧ (exists b, b ∈ part.bytes ∧ 0x80 ≤ b.toNat) ∧
    part.charset = charset

/-- The charset that parts come to together.  Binary stands for parts that
differ, but parts may also be binary themselves. -/
inductive CharsetOf (parts : List Text) : Charset -> Prop
  | plain (silent : forall charset, Not (Speaks parts charset)) :
      CharsetOf parts .utf8
  | shared {charset : Charset} (speaks : Speaks parts charset)
      (only : forall other, Speaks parts other -> other = charset) :
      CharsetOf parts charset
  | mixed {charset other : Charset} (speaks : Speaks parts charset)
      (speaks_other : Speaks parts other) (differ : charset ≠ other) :
      CharsetOf parts .binary

theorem isAscii_eq_false_iff {part : Text} :
    part.isAscii = false <-> exists b, b ∈ part.bytes ∧ 0x80 ≤ b.toNat := by
  unfold isAscii Charset.isAscii
  rw [List.all_eq_false]
  simp only [decide_eq_true_eq, Nat.not_lt]

def spoken (parts : List Text) : List Charset :=
  (parts.filter fun part => !part.isAscii).map charset

theorem mem_spoken_iff {parts : List Text} {charset : Charset} :
    charset ∈ spoken parts <-> Speaks parts charset := by
  unfold spoken Speaks
  simp only [List.mem_map, List.mem_filter, Bool.not_eq_true',
    isAscii_eq_false_iff, and_assoc]

theorem spoken_cons (part : Text) (rest : List Text) :
    spoken (part :: rest) =
      if part.isAscii then spoken rest else part.charset :: spoken rest := by
  unfold spoken
  rw [List.filter_cons]
  cases part.isAscii <;> rfl

/-- Once parts have differed, the charset stays binary. -/
theorem foldl_merge_some (parts : List Text) (charset : Charset) :
    parts.foldl merge (some charset) =
      some (if (spoken parts).all (· = charset) then charset else .binary) := by
  induction parts generalizing charset with
  | nil => rfl
  | cons part rest ih =>
      rw [List.foldl_cons, spoken_cons, merge]
      cases part.isAscii with
      | true => exact ih charset
      | false =>
          show rest.foldl merge
              (some (if part.charset = charset then charset else .binary)) =
            some (if (part.charset :: spoken rest).all (· = charset) then
              charset
              else .binary)
          rw [ih, List.all_cons]
          by_cases hsame : part.charset = charset
          · rw [if_pos hsame, decide_eq_true hsame, Bool.true_and]
          · rw [if_neg hsame, decide_eq_false hsame, Bool.false_and, ite_self]
            rfl

theorem foldl_merge_none (parts : List Text) :
    parts.foldl merge none =
      match spoken parts with
      | [] => none
      | charset :: others =>
          some (if others.all (· = charset) then charset else .binary) := by
  induction parts with
  | nil => rfl
  | cons part rest ih =>
      rw [List.foldl_cons, spoken_cons, merge]
      cases part.isAscii with
      | true => exact ih
      | false => exact foldl_merge_some rest part.charset

theorem jointCharset_of_spoken_nil {parts : List Text} (h : spoken parts = []) :
    jointCharset parts = .utf8 := by
  rw [jointCharset, foldl_merge_none, h]
  rfl

theorem jointCharset_of_spoken_cons {parts : List Text} {charset : Charset}
    {others : List Charset} (h : spoken parts = charset :: others) :
    jointCharset parts =
      if others.all (· = charset) then charset else .binary := by
  rw [jointCharset, foldl_merge_none, h]
  rfl

theorem charsetOf_jointCharset (parts : List Text) :
    CharsetOf parts (jointCharset parts) := by
  cases hspoken : spoken parts with
  | nil =>
      rw [jointCharset_of_spoken_nil hspoken]
      apply CharsetOf.plain
      intro charset hspeaks
      rw [← mem_spoken_iff, hspoken] at hspeaks
      cases hspeaks
  | cons charset others =>
      have hspeaks : Speaks parts charset := by
        rw [← mem_spoken_iff, hspoken]
        exact List.mem_cons_self
      rw [jointCharset_of_spoken_cons hspoken]
      split
      · rename_i hall
        apply CharsetOf.shared hspeaks
        intro other hother
        rw [← mem_spoken_iff, hspoken] at hother
        rcases List.mem_cons.mp hother with rfl | hlater
        · rfl
        · exact of_decide_eq_true (List.all_eq_true.mp hall other hlater)
      · rename_i hdiffer
        rw [Bool.not_eq_true, List.all_eq_false] at hdiffer
        rcases hdiffer with ⟨other, hother, hne⟩
        have hspeaks_other : Speaks parts other := by
          rw [← mem_spoken_iff, hspoken]
          exact List.mem_cons_of_mem charset hother
        apply CharsetOf.mixed hspeaks_other hspeaks
        intro heq
        exact hne (decide_eq_true heq)

theorem CharsetOf.unique {parts : List Text} {charset charset' : Charset}
    (h : CharsetOf parts charset) (h' : CharsetOf parts charset') :
    charset = charset' := by
  cases h with
  | plain silent =>
      cases h' with
      | plain => rfl
      | shared speaks => exact absurd speaks (silent _)
      | mixed speaks => exact absurd speaks (silent _)
  | shared speaks only =>
      cases h' with
      | plain silent => exact absurd speaks (silent _)
      | shared speaks' => exact (only _ speaks').symm
      | mixed speaks' speaks_other differ =>
          exact absurd ((only _ speaks').trans (only _ speaks_other).symm)
            differ
  | mixed speaks speaks_other differ =>
      cases h' with
      | plain silent => exact absurd speaks (silent _)
      | shared _ only =>
          exact absurd ((only _ speaks).trans (only _ speaks_other).symm) differ
      | mixed => rfl

theorem charsetOf_iff {parts : List Text} {charset : Charset} :
    CharsetOf parts charset <-> charset = jointCharset parts := by
  constructor
  · intro h
    exact h.unique (charsetOf_jointCharset parts)
  · rintro rfl
    exact charsetOf_jointCharset parts

theorem speaks_of_perm {parts others : List Text} (h : parts.Perm others)
    {charset : Charset} (hspeaks : Speaks parts charset) :
    Speaks others charset := by
  rcases hspeaks with ⟨part, hmem, hpart⟩
  exact ⟨part, h.mem_iff.mp hmem, hpart⟩

theorem CharsetOf.of_perm {parts others : List Text} (h : parts.Perm others)
    {charset : Charset} (hof : CharsetOf parts charset) :
    CharsetOf others charset := by
  cases hof with
  | plain silent =>
      exact .plain
        fun charset hspeaks => silent charset (speaks_of_perm h.symm hspeaks)
  | shared speaks only =>
      exact .shared (speaks_of_perm h speaks) fun other hspeaks =>
        only other (speaks_of_perm h.symm hspeaks)
  | mixed speaks speaks_other differ =>
      exact .mixed (speaks_of_perm h speaks)
        (speaks_of_perm h speaks_other) differ

end Text

namespace Template

open Unicode

/-!
## The parts of a template
-/

/-- What a segment gives as a part of a text.  Literals and values other than
texts are written in UTF-8. -/
inductive Segment.Gives (ctx : Context) : Segment -> Text -> Prop
  | literal (s : String) : Gives ctx (.literal s) ⟨Utf8.ofString s, .utf8⟩
  | text {e : Expr} {text : Text}
      (evaluates : e.evaluate ctx = .ok (.text text)) : Gives ctx (.expr e) text
  | other {e : Expr} {v : Value} (evaluates : e.evaluate ctx = .ok v)
      (not_text : forall text, v ≠ .text text) :
      Gives ctx (.expr e) ⟨Utf8.ofString v.shown, .utf8⟩

theorem part_of_not_text {v : Value} (h : forall text, v ≠ .text text) :
    part v = ⟨Utf8.ofString v.shown, .utf8⟩ := by
  cases v with
  | text t => exact absurd rfl (h t)
  | _ => rfl

theorem evaluate_exprSegment (ctx : Context) (e : Expr) :
    Segment.evaluate ctx (.expr e) = (e.evaluate ctx).map part := by
  rw [Segment.evaluate]
  cases e.evaluate ctx <;> rfl

theorem gives_iff {ctx : Context} {segment : Segment} {text : Text} :
    segment.Gives ctx text <-> segment.evaluate ctx = .ok text := by
  constructor
  · intro h
    cases h with
    | literal s => rfl
    | text evaluates =>
        rw [evaluate_exprSegment, evaluates]
        rfl
    | other evaluates not_text =>
        rw [evaluate_exprSegment, evaluates, ← part_of_not_text not_text]
        rfl
  · intro h
    cases segment with
    | literal s =>
        cases h
        exact .literal s
    | expr e =>
        rw [evaluate_exprSegment] at h
        rcases except_map_eq_ok h with ⟨v, hv, rfl⟩
        by_cases htext : exists t, v = .text t
        · rcases htext with ⟨t, rfl⟩
          exact .text hv
        · have hother : forall t, v ≠ .text t := fun t heq => htext ⟨t, heq⟩
          rw [part_of_not_text hother]
          exact .other hv hother

theorem segment_evaluate_eq_error_iff {ctx : Context} {segment : Segment}
    {error : EvalError} :
    segment.evaluate ctx = .error error <->
      exists e, segment = .expr e ∧ e.evaluate ctx = .error error := by
  cases segment with
  | literal s =>
      constructor
      · nofun
      · rintro ⟨e, heq, _⟩
        cases heq
  | expr e =>
      rw [evaluate_exprSegment, except_map_eq_error_iff]
      constructor
      · intro he
        exact ⟨e, rfl, he⟩
      · rintro ⟨e', heq, he⟩
        cases heq
        exact he

/-!
## Templates as a whole
-/

theorem evaluate_template (ctx : Context) (segments : List Segment) :
    (Plan.template segments).evaluate ctx =
      (segments.mapM (Segment.evaluate ctx)).map (.text ∘ Text.join) := by
  rw [Plan.evaluate]
  cases segments.mapM (Segment.evaluate ctx) <;> rfl

theorem evaluate_template_eq_ok_iff {ctx : Context} {segments : List Segment}
    {value : Value} :
    (Plan.template segments).evaluate ctx = .ok value <->
      exists parts, List.Forall₂ (Segment.Gives ctx) segments parts ∧
        value = .text (Text.join parts) := by
  have hgives : Segment.Gives ctx =
      fun segment text => Segment.evaluate ctx segment = .ok text := by
    funext segment text
    exact propext gives_iff
  rw [evaluate_template, hgives]
  constructor
  · intro h
    rcases except_map_eq_ok h with ⟨parts, hparts, rfl⟩
    exact ⟨parts, mapM_eq_ok_iff.mp hparts, rfl⟩
  · rintro ⟨parts, hparts, rfl⟩
    rw [mapM_eq_ok_iff.mpr hparts]
    rfl

theorem evaluate_template_eq_error_iff {ctx : Context} {segments : List Segment}
    {error : EvalError} :
    (Plan.template segments).evaluate ctx = .error error <->
      exists before e after, segments = before ++ .expr e :: after ∧
        (forall segment, segment ∈ before ->
          exists part, segment.Gives ctx part) ∧
        e.evaluate ctx = .error error := by
  rw [evaluate_template, except_map_eq_error_iff, mapM_eq_error_iff]
  simp only [gives_iff]
  constructor
  · rintro ⟨before, segment, after, rfl, hbefore, hsegment⟩
    rcases segment_evaluate_eq_error_iff.mp hsegment with ⟨e, rfl, he⟩
    exact ⟨before, e, after, rfl, hbefore, he⟩
  · rintro ⟨before, e, after, rfl, hbefore, he⟩
    exact ⟨before, .expr e, after, rfl, hbefore,
      segment_evaluate_eq_error_iff.mpr ⟨e, rfl, he⟩⟩

theorem render_splices_parts (ctx : Context) (segments : List Segment) :
    (forall value, (Plan.template segments).evaluate ctx = .ok value <->
        exists parts text, List.Forall₂ (Segment.Gives ctx) segments parts ∧
          value = .text text ∧
          text.bytes = parts.flatMap Text.bytes ∧
            Text.CharsetOf parts text.charset) ∧
      (forall error, (Plan.template segments).evaluate ctx = .error error <->
        exists before e after, segments = before ++ .expr e :: after ∧
          (forall segment, segment ∈ before ->
            exists part, segment.Gives ctx part) ∧
          e.evaluate ctx = .error error) ∧
      (forall text, (Plan.template segments).evaluate ctx = .ok (.text text) ->
        forall others, others.Perm segments ->
          exists text',
            (Plan.template others).evaluate ctx = .ok (.text text') ∧
            text'.charset = text.charset) := by
  refine ⟨?_, fun error => evaluate_template_eq_error_iff, ?_⟩
  · intro value
    rw [evaluate_template_eq_ok_iff]
    constructor
    · rintro ⟨parts, hparts, rfl⟩
      exact ⟨parts, Text.join parts, hparts, rfl, rfl,
        Text.charsetOf_jointCharset parts⟩
    · rintro ⟨parts, ⟨bytes, charset⟩, hparts, rfl, hbytes, hcharset⟩
      refine ⟨parts, hparts, ?_⟩
      rw [Text.join, ← hbytes, ← Text.charsetOf_iff.mp hcharset]
  · intro text htext others hperm
    rcases evaluate_template_eq_ok_iff.mp htext with ⟨parts, hparts, heq⟩
    cases heq
    rcases List.perm_comp_forall₂ hperm hparts with ⟨parts', hparts', hperm'⟩
    refine ⟨Text.join parts',
      evaluate_template_eq_ok_iff.mpr ⟨parts', hparts', rfl⟩, ?_⟩
    exact Text.charsetOf_iff.mp
      ((Text.charsetOf_jointCharset parts').of_perm hperm')

def katakanaContext : Context :=
  ⟨⟨[], [], 0⟩, "t", 0, [("k", .text ⟨[0x83, 0x41], .encoded .shiftJis⟩)], none⟩

theorem render_splices_parts_two_charsets :
    (Plan.template [.literal "é", .expr ⟨.record, [.key "k"]⟩]).evaluate
      katakanaContext =
        .ok (.text ⟨[0xC3, 0xA9, 0x83, 0x41], .binary⟩) ∧
      exists text,
        (Plan.template [.expr ⟨.record, [.key "k"]⟩, .literal "é"]).evaluate
          katakanaContext = .ok (.text text) ∧ text.charset = .binary := by
  have hrendered :
      (Plan.template [.literal "é", .expr ⟨.record, [.key "k"]⟩]).evaluate
          katakanaContext =
        .ok (.text ⟨[0xC3, 0xA9, 0x83, 0x41], .binary⟩) := by
    with_unfolding_all rfl
  refine ⟨hrendered, ?_⟩
  exact (render_splices_parts katakanaContext _).right.right _ hrendered _
    (.swap _ _ [])

end Template
end Reshape
