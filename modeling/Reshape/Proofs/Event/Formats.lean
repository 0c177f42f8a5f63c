import Reshape.Proofs.Event.Reading

/-!
# The two formats

The values of events are read alike from a JSON array and from lines.  An array
of events is never taken for an event, because its first item is no time; a line
alone is no array of events, because a pair is taken for an event; and lines
together are no JSON value.
-/

namespace Reshape
namespace Event

open Unicode

/-!
## Arrays
-/

section Arrays

variable {defaultTime : Int64} {values : List Json} {events : List Event}

theorem isPair_map_asRead
    (h : List.Forall₂ (Stands defaultTime) values events) :
    isPair (values.map Json.asRead) = false := by
  unfold isPair
  split
  · rename_i time members heq
    cases h with
    | nil => cases heq
    | cons hfirst hmore =>
        injection heq with htime _
        rw [← htime, time?_asRead hfirst]
        rfl
  · rfl

theorem ofItems_map_asRead (h : List.Forall₂ (Stands defaultTime) values events)
    (line : Nat) :
    ofItems defaultTime line (values.map Json.asRead) = .ok events := by
  induction h generalizing line with
  | nil => rfl
  | cons hfirst hmore ih =>
      rw [List.map_cons, ofItems, ofJson_asRead hfirst, ih (line + 1)]
      rfl

theorem parse_array
    (hnested : forall value, value ∈ values -> Json.Nested 126 value)
    (hevents : List.Forall₂ (Stands defaultTime) values events) :
    parse (Json.array values).render defaultTime = .ok events := by
  have hparse : Json.parseChars? (Json.array values).renderChars =
      some (.array (values.map Json.asRead)) := by
    rw [← Json.asRead_array]
    exact Json.parseChars?_renderChars (.array hnested)
  have hframed := framed_array values
  have hnonempty : (Json.array values).renderChars.isEmpty = false := by
    rcases hframed with ⟨c, inner, d, hchars, _⟩
    rw [hchars]
    rfl
  unfold parse Json.render parseChars items?
  simp only [String.toList_ofList, trim_of_framed hframed, hnonempty, hparse,
    isPair_map_asRead hevents, Bool.false_eq_true, if_false]
  exact ofItems_map_asRead hevents 1

end Arrays

/-!
## Lines
-/

section Lines

variable {defaultTime : Int64} {values : List Json} {events : List Event}

theorem framed_of_mem_values
    (h : List.Forall₂ (Stands defaultTime) values events) :
    forall text, text ∈ values.map Json.renderChars -> Framed text := by
  induction h with
  | nil =>
      intro text htext
      cases htext
  | cons hfirst hmore ih =>
      intro text htext
      rcases List.mem_cons.mp htext with rfl | hlater
      · exact framed_of_stands hfirst
      · exact ih text hlater

theorem ofLines_padded {lines : List (List Char)} {texts : List (List Char)}
    (hlines : Padded texts lines) (htexts : texts = values.map Json.renderChars)
    (hnested : forall value, value ∈ values -> Json.Nested Json.maxDepth value)
    (hevents : List.Forall₂ (Stands defaultTime) values events) (line : Nat) :
    ofLines defaultTime line lines = .ok events := by
  induction hlines generalizing values events line with
  | nil =>
      cases hevents with
      | nil => rfl
      | cons hfirst hmore => cases htexts
  | blank pad rest ih =>
      rw [ofLines, ofLine_blank pad.left, ih htexts hnested hevents (line + 1)]
      rfl
  | text text before_pad after_pad rest ih =>
      cases hevents with
      | nil => cases htexts
      | @cons value event values events hfirst hmore =>
          injection htexts with htext htexts
          have hlater :
              forall later, later ∈ values -> Json.Nested Json.maxDepth later :=
            fun later hlater =>
              hnested later (List.mem_cons_of_mem value hlater)
          rw [ofLines, htext,
            ofLine_around (hnested value List.mem_cons_self) hfirst
              before_pad.left after_pad.left,
            ih htexts hlater hmore (line + 1)]
          rfl

theorem exists_read_as_lines {lines : List (List Char)} (hsome : values ≠ [])
    (hlines : Padded (values.map Json.renderChars) lines)
    (hnested : forall value, value ∈ values -> Json.Nested Json.maxDepth value)
    (hevents : List.Forall₂ (Stands defaultTime) values events) :
    exists trimmed, trim (joinWith '\n' lines) = joinWith '\n' trimmed ∧
      Padded (values.map Json.renderChars) trimmed ∧
        items? (joinWith '\n' trimmed) = none := by
  have hframed := framed_of_mem_values hevents
  cases hevents with
  | nil => exact absurd rfl hsome
  | @cons first _ more _ hfirst hmore =>
      have hnestedFirst := hnested first List.mem_cons_self
      cases more with
      | nil =>
          have htrim := trim_one hlines (framed_of_stands hfirst)
          refine ⟨[first.renderChars ++ []], ?_,
            padded_first _ pad_nil .nil, ?_⟩
          · rw [htrim, List.append_nil]
            rfl
          · rw [List.append_nil]
            exact items?_of_stands hnestedFirst hfirst
      | cons second more =>
          rcases trim_several hlines hframed with
            ⟨after, ending, hafter, hending, htrim⟩
          refine ⟨(first.renderChars ++ after) :: ending, htrim,
            padded_first _ hafter hending, ?_⟩
          rcases hframed _ (List.mem_cons_of_mem _ List.mem_cons_self) with
            ⟨c, inner, d, htext, hc, _⟩
          have hmem : c ∈ joinWith '\n' ending := by
            apply mem_joinWith_of_padded hending List.mem_cons_self
            rw [htext]
            exact List.mem_cons_self
          rw [joinWith_cons _ _
              (ne_nil_of_padded hending (List.cons_ne_nil _ _)),
            List.append_assoc]
          exact items?_append hnestedFirst hafter hmem hc

theorem parse_lines {lines : List (List Char)}
    (hnested : forall value, value ∈ values -> Json.Nested Json.maxDepth value)
    (hevents : List.Forall₂ (Stands defaultTime) values events)
    (hlines : Padded (values.map Json.renderChars) lines) :
    parse (String.ofList (joinWith '\n' lines)) defaultTime = .ok events := by
  unfold parse parseChars
  rw [String.toList_ofList]
  cases values with
  | nil =>
      cases hevents
      simp only [trim_nothing hlines, List.isEmpty_nil, if_true]
  | cons first more =>
      rcases exists_read_as_lines (List.cons_ne_nil first more) hlines hnested
        hevents with
        ⟨trimmed, htrim, hpadded, hitems⟩
      have hnonempty : (joinWith '\n' trimmed).isEmpty = false := by
        rcases Json.begins_renderChars first with ⟨c, cs, htext, _⟩
        apply List.isEmpty_eq_false_iff_exists_mem.mpr
        refine ⟨c, mem_joinWith_of_padded hpadded List.mem_cons_self ?_⟩
        rw [htext]
        exact List.mem_cons_self
      have hnewline : forall line, line ∈ trimmed -> Not ('\n' ∈ line) := by
        apply newline_not_mem_of_padded hpadded
        intro text htext
        rcases List.mem_map.mp htext with ⟨value, hvalue, rfl⟩
        exact Json.newline_not_mem_renderChars (hnested value hvalue)
      have hsplit : splitOn '\n' (joinWith '\n' trimmed) = trimmed := by
        cases trimmed with
        | nil =>
            exact absurd rfl (ne_nil_of_padded hpadded (List.cons_ne_nil _ _))
        | cons line trimmed => exact splitOn_joinWith hnewline
      simp only [htrim, hnonempty, Bool.false_eq_true, if_false, hitems, hsplit]
      exact ofLines_padded hpadded rfl hnested hevents 1

end Lines

/-- An array of events and the lines of the same events are read alike: one
event for each value, in the order of the values. -/
theorem parse_formats {values : List Json} {events : List Event}
    {lines : List (List Char)} {defaultTime : Int64}
    (hnested : forall value, value ∈ values -> Json.Nested 126 value)
    (hevents : List.Forall₂ (Stands defaultTime) values events)
    (hlines : Padded (values.map Json.renderChars) lines) :
    parse (Json.array values).render defaultTime = .ok events ∧
      parse (String.ofList (joinWith '\n' lines)) defaultTime = .ok events :=
  ⟨parse_array hnested hevents,
    parse_lines (fun value hvalue => Json.nested_succ (hnested value hvalue))
      hevents hlines⟩

def mixedValues : List Json :=
  [.object [("a", .ofInt64 1)], .array [.ofInt64 7, .object [("b", .null)]]]

def mixedLines : List (List Char) :=
  [[' '], ['\t'] ++ ((Json.object [("a", .ofInt64 1)]).renderChars ++ ['\r']),
    ['\x0B'],
    (Json.array [.ofInt64 7, .object [("b", .null)]]).renderChars ++ [' '], []]

def mixedEvents : List Event :=
  [(9, [("a", .int 1)]), (7, [("b", .null)])]

theorem parse_formats_mixed :
    (forall value, value ∈ mixedValues -> Json.Nested 126 value) ∧
      List.Forall₂ (Stands 9) mixedValues mixedEvents ∧
      Padded (mixedValues.map Json.renderChars) mixedLines ∧
      parse (Json.array mixedValues).render 9 = .ok mixedEvents ∧
      parse (String.ofList (joinWith '\n' mixedLines)) 9 = .ok mixedEvents := by
  have hplain : Json.Plain 1 (.object [("a", .ofInt64 1)]) := by
    refine .object (by simp [Fields.Distinct, Fields.keys]) ?_
    intro member hmember
    rw [List.mem_singleton.mp hmember]
    exact .integer 1 _
  have hnested :
      forall value, value ∈ mixedValues -> Json.Nested 126 value := by
    intro value hvalue
    simp only [mixedValues, List.mem_cons, List.not_mem_nil, or_false] at hvalue
    rcases hvalue with rfl | rfl
    · exact .object (by simpa using .number _)
    · exact .array (by simpa using ⟨.number _, .object (by simpa using .null)⟩)
  have hbare : Stands 9 (.object [("a", .ofInt64 1)]) (9, [("a", .int 1)]) := by
    have h := (Stands.bare _ : Stands 9 (.object [("a", .ofInt64 1)]) _)
    rw [Json.membersRead_of_plain hplain] at h
    exact h
  have hevents : List.Forall₂ (Stands 9) mixedValues mixedEvents :=
    .cons hbare (.cons (.pair 7 _) .nil)
  have hlines : Padded (mixedValues.map Json.renderChars) mixedLines :=
    .blank (pad_singleton rfl (by decide))
      (.text _ (pad_singleton rfl (by decide)) (pad_singleton rfl (by decide))
        (.blank (pad_singleton rfl (by decide))
          (padded_first _ (pad_singleton rfl (by decide))
            (.blank pad_nil .nil))))
  exact ⟨hnested, hevents, hlines, parse_formats hnested hevents hlines⟩

end Event
end Reshape
