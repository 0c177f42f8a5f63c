import Reshape.Proofs.Event.Reading
import Reshape.Proofs.Value.Json

/-!
# Reading back events

Each event is written as a pair on a line of its own.  A single line is a JSON
array, but one that is taken for a pair; several lines are no JSON value.  So
what was written is read line by line, and each line gives its event.
-/

namespace Reshape
namespace Event

open Unicode

/-- The record can be written, at one level less than a pair adds to it. -/
def Portable (event : Event) : Prop :=
  Value.Portable 126 (.map event.2)

/-!
## The line of an event
-/

def pairChars (event : Event) : List Char :=
  (toJson event).renderChars

theorem plain_toJson {event : Event} (h : Portable event) :
    Json.Plain Json.maxDepth (toJson event) := by
  apply Json.Plain.array
  intro item hitem
  rcases List.mem_cons.mp hitem with rfl | hrecord
  · exact .integer event.1.toInt _
  · rw [List.mem_singleton.mp hrecord]
    exact Value.plain_toJson h

theorem framed_pairChars (event : Event) : Framed (pairChars event) :=
  framed_array _

theorem stands_toJson {event : Event} (h : Portable event)
    (defaultTime : Int64) : Stands defaultTime (toJson event) event := by
  have hvalue : Json.Plain 126 (.object (Value.entriesToJson event.2)) :=
    Value.plain_toJson h
  have hrecord : recordOf (Value.entriesToJson event.2) = event.2 := by
    have hmap := Value.ofJson_toJson h
    rw [Value.toJson, Value.ofJson] at hmap
    injection hmap
  have hstands : Stands defaultTime (toJson event)
      (event.1, recordOf (Json.membersRead (Value.entriesToJson event.2))) :=
    .pair event.1 (Value.entriesToJson event.2)
  rw [Json.membersRead_of_plain hvalue, hrecord] at hstands
  exact hstands

theorem ofLine_pairChars {event : Event} (h : Portable event)
    (defaultTime : Int64) (line : Nat) :
    ofLine defaultTime line (pairChars event) = .ok (some event) := by
  have hline := ofLine_around (Json.nested_of_plain (plain_toJson h))
    (stands_toJson h defaultTime) blank_nil blank_nil line
  rw [List.append_nil] at hline
  exact hline

theorem ofLines_map_pairChars {events : List Event}
    (h : forall event, event ∈ events -> Portable event) (defaultTime : Int64)
    (line : Nat) :
    ofLines defaultTime line (events.map pairChars) = .ok events := by
  induction events generalizing line with
  | nil => rfl
  | cons event rest ih =>
      have hrest :=
        ih (fun later hlater => h later (List.mem_cons_of_mem event hlater))
          (line + 1)
      rw [List.map_cons, ofLines, ofLine_pairChars (h event List.mem_cons_self)]
      show Except.bind (ofLines defaultTime (line + 1) (rest.map pairChars)) _ =
          _
      rw [hrest]
      rfl

/-!
## The lines together
-/

theorem framed_joinWith_pairs (first : Event) (more : List Event) :
    Framed (joinWith '\n' ((first :: more).map pairChars)) := by
  have hall :
      forall piece, piece ∈ (first :: more).map pairChars -> Framed piece := by
    intro piece hpiece
    rcases List.mem_map.mp hpiece with ⟨event, _, rfl⟩
    exact framed_pairChars event
  exact framed_joinWith hall

theorem items?_joinWith_pairs {first : Event} (h : Portable first)
    (more : List Event) :
    items? (joinWith '\n' ((first :: more).map pairChars)) = none := by
  have hnested := Json.nested_of_plain (plain_toJson h)
  cases more with
  | nil => exact items?_of_stands hnested (stands_toJson h 0)
  | cons second more =>
      rcases framed_joinWith_pairs second more with ⟨c, inner, d, hrest, hc, _⟩
      have hmem : c ∈ joinWith '\n' ((second :: more).map pairChars) := by
        rw [hrest]
        exact List.mem_cons_self
      have hjoined : joinWith '\n' ((first :: second :: more).map pairChars) =
          (toJson first).renderChars ++
            ([] ++ '\n' :: joinWith '\n' ((second :: more).map pairChars)) :=
        rfl
      rw [hjoined]
      exact items?_append hnested pad_nil hmem hc

theorem splitOn_joinWith_pairs {first : Event} {more : List Event}
    (h : forall event, event ∈ first :: more -> Portable event) :
    splitOn '\n' (joinWith '\n' ((first :: more).map pairChars)) =
      (first :: more).map pairChars := by
  have hlines : forall piece, piece ∈ (first :: more).map pairChars ->
      Not ('\n' ∈ piece) := by
    intro piece hpiece
    rcases List.mem_map.mp hpiece with ⟨event, hevent, rfl⟩
    exact Json.newline_not_mem_renderChars
      (Json.nested_of_plain (plain_toJson (h event hevent)))
  exact splitOn_joinWith hlines

theorem flatMap_lineChars (first : Event) (more : List Event) :
    (first :: more).flatMap lineChars =
      joinWith '\n' ((first :: more).map pairChars) ++ ['\n'] := by
  have hterminated :=
    flatMap_terminated '\n' (pairChars first) (more.map pairChars)
  rw [← List.map_cons, List.flatMap_map] at hterminated
  exact hterminated

/-- Whatever the default time, it is not used. -/
theorem parse_print {events : List Event}
    (h : forall event, event ∈ events -> Portable event) (defaultTime : Int64) :
    parse (print events) defaultTime = .ok events := by
  unfold parse print
  rw [String.toList_ofList]
  cases events with
  | nil => rfl
  | cons first more =>
      have hframed := framed_joinWith_pairs first more
      have htrim : trim ((first :: more).flatMap lineChars) =
          joinWith '\n' ((first :: more).map pairChars) := by
        rw [flatMap_lineChars]
        exact trim_append_blank hframed rfl
      have hnonempty :
          (joinWith '\n' ((first :: more).map pairChars)).isEmpty = false := by
        rcases hframed with ⟨c, inner, d, hchars, _⟩
        rw [hchars]
        rfl
      unfold parseChars
      simp only [htrim, hnonempty, Bool.false_eq_true, if_false,
        items?_joinWith_pairs (h first List.mem_cons_self),
        splitOn_joinWith_pairs h]
      exact ofLines_map_pairChars h defaultTime 1

def assorted : List Event :=
  [(-5, [("a\n\"", .array [.ofString "x\u2028\n", .uint 0x8000000000000000])]),
    (7, [])]

theorem parse_print_assorted :
    (forall event, event ∈ assorted -> Portable event) ∧
      parse (print assorted) 9 = .ok assorted := by
  have hportable : forall event, event ∈ assorted -> Portable event := by
    intro event hevent
    simp only [assorted, List.mem_cons, List.not_mem_nil, or_false] at hevent
    rcases hevent with rfl | rfl
    · refine .map (by simp [Fields.Distinct, Fields.keys]) ?_
      intro entry hentry
      rw [List.mem_singleton.mp hentry]
      refine .array ?_
      intro item hitem
      simp only [List.mem_cons, List.not_mem_nil, or_false] at hitem
      rcases hitem with rfl | rfl
      · exact .text (Text.ofString "x\u2028\n") rfl ⟨"x\u2028\n".toList, rfl⟩
      · exact .uint _ (by decide)
    · refine .map (by simp [Fields.Distinct, Fields.keys]) ?_
      intro entry hentry
      cases hentry
  exact ⟨hportable, parse_print hportable 9⟩

end Event
end Reshape
