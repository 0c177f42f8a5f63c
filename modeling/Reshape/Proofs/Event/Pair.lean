import Mathlib.Data.List.Basic
import Reshape.Proofs.Event.Refusals
import Reshape.Proofs.Json.Locality

/-!
# A lone pair

A text whose value is a pair of a time and an object is not taken for a list,
but it is read again by its lines.  Spaces and tabs within the pair are of no
account, and so are all blanks around it.  But if the pair goes over several
lines, the first of them is no value, and the text is refused.
-/

namespace Reshape
namespace Event

open Unicode

theorem blank_of_spaces {cs : List Char} (h : Json.Spaces cs) : Blank cs := by
  intro c hc
  rcases Json.isSpace_iff.mp (h c hc) with rfl | rfl | rfl | rfl <;> rfl

theorem exists_trim_eq_brackets {cs : List Char} {items : List Json}
    (h : Json.parseChars? cs = some (.array items)) :
    exists inner, trim cs = '[' :: (inner ++ [']']) ∧
      Json.parseChars? (trim cs) = some (.array items) := by
  rcases Json.exists_of_parseChars?_array h with
    ⟨pad, inner, tail, rfl, hpad, htail, hparse⟩
  have hframed : Framed ('[' :: (inner ++ [']'])) :=
    ⟨'[', inner, ']', rfl, rfl, rfl⟩
  have htrim : trim (pad ++ ('[' :: (inner ++ [']']) ++ tail)) =
      '[' :: (inner ++ [']']) :=
    trim_around (blank_of_spaces hpad) hframed (blank_of_spaces htail)
  refine ⟨inner, htrim, ?_⟩
  rw [htrim]
  exact hparse

/-!
## Layouts
-/

/-- The spaces around a pair, and before and behind each of its two parts. -/
structure Layout where
  before : List Char
  opening : List Char
  middle : List Char
  gap : List Char
  closing : List Char
  after : List Char
  spaces : Json.Spaces (before ++ opening ++ middle ++ gap ++ closing ++ after)

def Layout.chars (layout : Layout) (first second : List Char) : List Char :=
  layout.before ++ '[' :: (layout.opening ++ (first ++ (layout.middle ++ ',' ::
    (layout.gap ++ (second ++ (layout.closing ++ [']'])))))) ++ layout.after

theorem parseChars?_layout (layout : Layout) (time : Int64)
    {members : List (String × Json)} (h : Json.Nested 126 (.object members)) :
    Json.parseChars?
        (layout.chars (Json.ofInt64 time).renderChars
          (Json.object members).renderChars) =
      some (.array [.ofInt64 time, .object (Json.membersRead members)]) := by
  rcases layout with ⟨before, opening, middle, gap, closing, after, hspaces⟩
  have hpad :
      forall pad, pad ∈ [before, opening, middle, gap, closing, after] ->
        Json.Spaces pad := by
    intro pad hmem c hc
    refine hspaces c ?_
    simp only [List.mem_cons, List.not_mem_nil, or_false] at hmem
    rcases hmem with rfl | rfl | rfl | rfl | rfl | rfl <;> simp [hc]
  have hfirst :
      Json.Reads (Json.value? 126) (Json.ofInt64 time).renderChars
        (Json.ofInt64 time).reread :=
    Json.reads_renderChars (.number _)
  have hpair :=
    Json.reads_two_items (Json.begins_renderChars _) hfirst
      (Json.reads_renderChars h)
    (hpad opening (by simp)) (hpad middle (by simp)) (hpad gap (by simp))
      (hpad closing (by simp))
  rw [← asRead_pair]
  exact Json.parseChars?_of_reads
    (Json.reads_after_spaces (Json.value?_skipSpace _)
      (hpad before (by simp)) hpair)
    (hpad after (by simp))

/-!
## Reading
-/

section Pair

variable {source : String} {time : Int64} {members : List (String × Json)}

theorem parse_pair_of_one_line
    (h : Json.parseChars? source.toList =
      some (.array [.ofInt64 time, .object members]))
    (hline : Not ('\n' ∈ trim source.toList)) (defaultTime : Int64) :
    parse source defaultTime = .ok [(time, recordOf members)] := by
  rcases exists_trim_eq_brackets h with ⟨inner, htrim, hparse⟩
  have hevent : ofLine defaultTime 1 (trim source.toList) =
      .ok (some (time, recordOf members)) := by
    have hnonempty : (trim source.toList).isEmpty = false := by
      rw [htrim]
      rfl
    unfold ofLine
    simp only [trim_trim, hnonempty, hparse, ofJson, time?_ofInt64,
      Bool.false_eq_true, if_false]
    rfl
  rw [parse_of_lines defaultTime (items?_pair hparse), splitOn_of_not_mem hline,
    ofLines_cons_of_ok hevent]
  rfl

theorem parseChars?_first_line {inner first others : List Char}
    {items : List Json}
    (h : Json.parseChars? ('[' :: (inner ++ [']'])) = some (.array items))
    (hlines : '[' :: (inner ++ [']']) = first ++ '\n' :: others) :
    Not (Blank first) ∧ Json.parseChars? (trim first) = none := by
  cases first with
  | nil => cases hlines
  | cons c more =>
      have hc : c = '[' := (List.cons.inj hlines).left.symm
      refine ⟨fun hblank => ?_, ?_⟩
      · have hbracket := hblank c List.mem_cons_self
        rw [hc] at hbracket
        cases hbracket
      · rcases exists_around_trim (c :: more) with ⟨tail, htext, htail⟩
        have hnone : (c :: more).takeWhile isBlank = [] := by
          rw [hc]
          rfl
        rw [hnone, List.nil_append] at htext
        cases hparse : Json.parseChars? (trim (c :: more)) with
        | none => rfl
        | some json =>
            -- The bracket that closes the array is on a later line, so there
            -- are not only spaces.
            have hlast : ('\n' :: others).getLast? = some ']' := by
              have hends := congrArg List.getLast? hlines
              rw [List.getLast?_append_cons, ← List.cons_append,
                List.getLast?_concat] at hends
              exact hends.symm
            rw [hlines, htext, List.append_assoc] at h
            have hspaces :=
              Json.spaces_of_parseChars?_append h hparse
                (stops_of_blank_line htail others)
            have hclose :=
              hspaces ']'
                (List.mem_append_right tail (List.mem_of_getLast? hlast))
            cases hclose

theorem parse_pair_of_lines
    (h : Json.parseChars? source.toList =
      some (.array [.ofInt64 time, .object members]))
    (hline : '\n' ∈ trim source.toList) (defaultTime : Int64) :
    parse source defaultTime = .error (.invalidRecord 1 .malformed) := by
  rcases exists_trim_eq_brackets h with ⟨inner, htrim, hparse⟩
  rcases List.eq_append_cons_of_mem hline with ⟨first, others, hsplit, hfirst⟩
  have hbrackets := hparse
  rw [htrim] at hbrackets
  rcases parseChars?_first_line hbrackets (htrim ▸ hsplit) with ⟨hblank, hnone⟩
  have hrefused :
      ofLine defaultTime 1 first = .error (.invalidRecord 1 .malformed) := by
    have hnonempty : (trim first).isEmpty = false :=
      List.isEmpty_eq_false_iff.mpr
        fun hnil => hblank (blank_of_trim_eq_nil hnil)
    unfold ofLine
    simp only [hnonempty, hnone, Bool.false_eq_true, if_false]
  rw [parse_of_lines defaultTime (items?_pair hparse), hsplit,
    splitOn_append hfirst, ofLines, hrefused]
  rfl

/-- A lone pair of a time and an object is the one event of its compact text.
It is the one event of the text as it is given exactly if there is no line end
within the pair, and otherwise the text is refused at its first line. -/
theorem parse_pair_iff
    (h : Json.parseChars? source.toList =
      some (.array [.ofInt64 time, .object members]))
    (defaultTime : Int64) :
    parse (String.ofList (Json.compact source.toList)) defaultTime =
      .ok [(time, recordOf members)] ∧
    (parse source defaultTime = .ok [(time, recordOf members)] <->
      Not ('\n' ∈ trim source.toList)) ∧
    ('\n' ∈ trim source.toList ->
      parse source defaultTime = .error (.invalidRecord 1 .malformed)) := by
  refine ⟨?_, ?_, fun hline => parse_pair_of_lines h hline defaultTime⟩
  · rcases Json.parseChars?_compact h with ⟨hparse, hline⟩
    refine parse_pair_of_one_line ?_ ?_ defaultTime
    · rw [String.toList_ofList]
      exact hparse
    · rw [String.toList_ofList]
      exact fun hmem => hline (mem_of_mem_trim hmem)
  · constructor
    · intro hread hline
      rw [parse_pair_of_lines h hline] at hread
      cases hread
    · intro hline
      exact parse_pair_of_one_line h hline defaultTime

end Pair

def counted : List (String × Json) :=
  [("a b", .ofInt64 1)]

theorem plain_counted : Json.Plain 126 (.object counted) := by
  refine .object (by simp [Fields.Distinct, Fields.keys, counted]) ?_
  intro member hmember
  rw [List.mem_singleton.mp hmember]
  exact .integer _ _

theorem parseChars?_layout_counted (layout : Layout) (time : Int64) :
    Json.parseChars?
        (layout.chars (Json.ofInt64 time).renderChars
          (Json.object counted).renderChars) =
      some (.array [.ofInt64 time, .object counted]) := by
  have hread :=
    parseChars?_layout layout time (Json.nested_of_plain plain_counted)
  rw [Json.membersRead_of_plain plain_counted] at hread
  exact hread

def spacedPair : String :=
  "\n [ -7 ,\t\x7b\"a b\":1\x7d ]\n"

theorem parse_pair_iff_spaced :
    Json.parseChars? spacedPair.toList =
      some (.array [.ofInt64 (-7), .object counted]) ∧
      parse (String.ofList (Json.compact spacedPair.toList)) 9 =
        .ok [(-7, recordOf counted)] ∧
      parse spacedPair 9 = .ok [(-7, recordOf counted)] := by
  have hpair : Json.parseChars? spacedPair.toList =
      some (.array [.ofInt64 (-7), .object counted]) :=
    parseChars?_layout_counted
      ⟨['\n', ' '], [' '], [' '], ['\t'], [' '], ['\n'], by
        simp [Json.Spaces, Json.isSpace]⟩
      (-7)
  rcases parse_pair_iff hpair 9 with ⟨hcompact, hgiven, _⟩
  exact ⟨hpair, hcompact, hgiven.mpr (by decide)⟩

def brokenPair : String :=
  "[7,\n\x7b\"a b\":1\x7d]"

/-- The same pair is an event on one line and refused on two. -/
theorem parse_brokenPair_refused :
    Json.parseChars? brokenPair.toList =
      some (.array [.ofInt64 7, .object counted]) ∧
      Json.compact brokenPair.toList = "[7,\x7b\"a b\":1\x7d]".toList ∧
      parse "[7,\x7b\"a b\":1\x7d]" 0 = .ok [(7, recordOf counted)] ∧
      parse brokenPair 0 = .error (.invalidRecord 1 .malformed) := by
  have hpair : Json.parseChars? brokenPair.toList =
      some (.array [.ofInt64 7, .object counted]) :=
    parseChars?_layout_counted
      ⟨[], [], [], ['\n'], [], [], by simp [Json.Spaces, Json.isSpace]⟩ 7
  have hcompact :
      Json.compact brokenPair.toList = "[7,\x7b\"a b\":1\x7d]".toList := by
    decide
  have hline := (Json.parseChars?_compact hpair).left
  rw [hcompact] at hline
  exact ⟨hpair, hcompact, parse_pair_of_one_line hline (by decide) 0,
    parse_pair_of_lines hpair (by decide) 0⟩

end Event
end Reshape
