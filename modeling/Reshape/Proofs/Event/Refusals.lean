import Mathlib.Data.List.TakeWhile
import Reshape.Proofs.Event.Reading

/-!
# Refused lines

A text that is read line by line is refused at its first line that is neither
blank nor an event.  The lines are counted after the whole text is trimmed:
blank lines between events count, but line ends among the blanks that the text
begins with do not.  So the number that is told is the number of the line in the
text exactly if the text begins with no such line end.
-/

namespace Reshape
namespace Event

open Unicode

/-!
## Lines that hold events
-/

/-- The value is an object, or a pair of an integer that a signed word holds and
an object. -/
inductive IsEvent : Json -> Prop
  | bare (members : List (String × Json)) : IsEvent (.object members)
  | pair (time : Int64) (members : List (String × Json)) :
      IsEvent (.array [.ofInt64 time, .object members])

def HoldsEvent (line : List Char) : Prop :=
  exists json, Json.parseChars? (trim line) = some json ∧ IsEvent json

/-- The line with the number, the first of which is one, is neither blank nor
does it hold an event, and all lines before are or do. -/
def FirstRefused (lines : List (List Char)) (number : Nat) : Prop :=
  exists before line after, lines = before ++ line :: after ∧
    number = before.length + 1 ∧
    (forall earlier, earlier ∈ before -> Blank earlier ∨ HoldsEvent earlier) ∧
    Not (Blank line) ∧ Not (HoldsEvent line)

/-- The line ends among the blanks that a text begins with. -/
def leadingBreaks (cs : List Char) : Nat :=
  (cs.takeWhile isBlank).count '\n'

theorem eq_ofInt64_of_time? {json : Json} {time : Int64}
    (h : time? json = some time) : json = .ofInt64 time := by
  unfold time? at h
  split at h
  · rename_i n inRange
    split at h
    · rename_i hlt
      cases h
      have hint : (Int64.ofInt n).toInt = n :=
        Int64.toInt_ofInt_of_le (by lia) (by lia)
      unfold Json.ofInt64
      simp only [hint]
    · cases h
  · cases h

theorem exists_cause_of_not_isEvent {json : Json} (h : Not (IsEvent json))
    (defaultTime : Int64) :
    exists cause, forall line,
      ofJson line defaultTime json = .error (.invalidRecord line cause) := by
  cases json with
  | object members => exact absurd (.bare members) h
  | array items =>
      by_cases hpair : exists time members, items = [time, .object members]
      · rcases hpair with ⟨time, members, rfl⟩
        cases htime : time? time with
        | none =>
            exists .timeNotInteger time
            intro line
            rw [ofJson, htime]
        | some t =>
            rw [eq_ofInt64_of_time? htime] at h
            exact absurd (.pair t members) h
      · exists .notPair
        intro line
        unfold ofJson
        split
        · rename_i heq
          cases heq
        · rename_i time members heq
          cases heq
          exact absurd ⟨time, members, rfl⟩ hpair
        · rfl
        · rename_i hnone
          exact absurd rfl (hnone items)
  | null => exact ⟨.notEvent .null, fun line => rfl⟩
  | bool b => exact ⟨.notEvent (.bool b), fun line => rfl⟩
  | number n => exact ⟨.notEvent (.number n), fun line => rfl⟩
  | string s => exact ⟨.notEvent (.string s), fun line => rfl⟩

theorem exists_event_of_isEvent {json : Json} (h : IsEvent json)
    (defaultTime : Int64) :
    exists event, forall line, ofJson line defaultTime json = .ok event := by
  cases h with
  | bare members => exact ⟨(defaultTime, recordOf members), fun line => rfl⟩
  | pair time members =>
      exists (time, recordOf members)
      intro line
      rw [ofJson, time?_ofInt64]

/-!
## Reading lines
-/

section Lines

variable {defaultTime : Int64}

theorem ofLine_congr {line line' : List Char} (h : trim line = trim line')
    (number : Nat) :
    ofLine defaultTime number line = ofLine defaultTime number line' := by
  unfold ofLine
  rw [h]

theorem exists_ofLine_eq_ok (defaultTime : Int64) {line : List Char}
    (h : Blank line ∨ HoldsEvent line) :
    exists found, forall number,
      ofLine defaultTime number line = .ok found := by
  rcases h with hblank | hholds
  · exact ⟨none, ofLine_blank hblank⟩
  · rcases hholds with ⟨json, hparse, hevent⟩
    rcases exists_event_of_isEvent hevent defaultTime with ⟨event, hread⟩
    by_cases hnil : trim line = []
    · exact ⟨none, ofLine_blank (blank_of_trim_eq_nil hnil)⟩
    · exists some event
      intro number
      have hnonempty : (trim line).isEmpty = false :=
        List.isEmpty_eq_false_iff.mpr hnil
      unfold ofLine
      simp only [hnonempty, hparse, hread, Bool.false_eq_true, if_false]
      rfl

theorem exists_ofLine_eq_error (defaultTime : Int64) {line : List Char}
    (hblank : Not (Blank line)) (hholds : Not (HoldsEvent line)) :
    exists cause, forall number,
      ofLine defaultTime number line =
        .error (.invalidRecord number cause) := by
  have hnonempty : (trim line).isEmpty = false :=
    List.isEmpty_eq_false_iff.mpr fun hnil => hblank (blank_of_trim_eq_nil hnil)
  cases hparse : Json.parseChars? (trim line) with
  | none =>
      exists .malformed
      intro number
      unfold ofLine
      simp only [hnonempty, hparse, Bool.false_eq_true, if_false]
  | some json =>
      have hnone : Not (IsEvent json) :=
        fun hevent => hholds ⟨json, hparse, hevent⟩
      rcases exists_cause_of_not_isEvent hnone defaultTime with
        ⟨cause, hrefused⟩
      exists cause
      intro number
      unfold ofLine
      simp only [hnonempty, hparse, hrefused, Bool.false_eq_true, if_false]
      rfl

theorem ofLines_cons_of_ok {line : List Char} {found : Option Event}
    {number : Nat} (h : ofLine defaultTime number line = .ok found)
    (rest : List (List Char)) :
    ofLines defaultTime number (line :: rest) =
      (ofLines defaultTime (number + 1) rest).map (found.toList ++ ·) := by
  rw [ofLines, h]
  show Except.bind (Except.ok found) _ = _
  cases ofLines defaultTime (number + 1) rest <;> rfl

theorem exists_ofLines_eq_ok (defaultTime : Int64) {lines : List (List Char)}
    (h : forall line, line ∈ lines -> Blank line ∨ HoldsEvent line) :
    exists events, forall number,
      ofLines defaultTime number lines = .ok events := by
  induction lines with
  | nil => exact ⟨[], fun number => rfl⟩
  | cons line rest ih =>
      rcases exists_ofLine_eq_ok defaultTime (h line List.mem_cons_self) with
        ⟨found, hfound⟩
      rcases ih
        fun later hlater => h later (List.mem_cons_of_mem line hlater) with
          ⟨events, hevents⟩
      exists found.toList ++ events
      intro number
      rw [ofLines_cons_of_ok (hfound number), hevents (number + 1)]
      rfl

/-- Lines that are counted from `start + 1` are refused at the first that is to
be. -/
theorem exists_ofLines_eq_error (defaultTime : Int64) {lines : List (List Char)}
    {number : Nat} (h : FirstRefused lines number) :
    exists cause, forall start,
      ofLines defaultTime (start + 1) lines =
        .error (.invalidRecord (start + number) cause) := by
  rcases h with ⟨before, line, after, rfl, rfl, hbefore, hblank, hholds⟩
  rcases exists_ofLine_eq_error defaultTime hblank hholds with ⟨cause, hrefused⟩
  exists cause
  induction before with
  | nil =>
      intro start
      rw [List.nil_append, ofLines, hrefused (start + 1)]
      rfl
  | cons earlier before ih =>
      intro start
      rcases exists_ofLine_eq_ok defaultTime
          (hbefore earlier List.mem_cons_self) with
        ⟨found, hfound⟩
      have hrest :=
        ih
          (fun early hearly =>
            hbefore early (List.mem_cons_of_mem earlier hearly))
        (start + 1)
      rw [List.cons_append, ofLines_cons_of_ok (hfound (start + 1)), hrest,
        List.length_cons]
      have hnumber : start + 1 + (before.length + 1) =
          start + (before.length + 1 + 1) := by
        lia
      rw [hnumber]
      rfl

theorem accepted_or_exists_firstRefused (lines : List (List Char)) :
    (forall line, line ∈ lines -> Blank line ∨ HoldsEvent line) ∨
      exists number, FirstRefused lines number := by
  induction lines with
  | nil => exact .inl fun _ => nofun
  | cons line rest ih =>
      by_cases haccepted : Blank line ∨ HoldsEvent line
      · rcases ih with hall | hrefused
        · refine .inl ?_
          intro any hany
          rcases List.mem_cons.mp hany with rfl | hlater
          · exact haccepted
          · exact hall any hlater
        · rcases hrefused with ⟨_, before, stop, after, rfl, _, hbefore, hstop⟩
          refine .inr ⟨_, line :: before, stop, after, rfl, rfl, ?_, hstop⟩
          intro earlier hearlier
          rcases List.mem_cons.mp hearlier with rfl | hlater
          · exact haccepted
          · exact hbefore earlier hlater
      · exact .inr
          ⟨1, [], line, rest, rfl, rfl, fun _ => nofun,
            fun hblank => haccepted (.inl hblank),
            fun hholds => haccepted (.inr hholds)⟩

theorem firstRefused_unique {lines : List (List Char)} {number number' : Nat}
    (h : FirstRefused lines number) (h' : FirstRefused lines number') :
    number = number' := by
  rcases exists_ofLines_eq_error 0 h with ⟨cause, hread⟩
  rcases exists_ofLines_eq_error 0 h' with ⟨cause', hread'⟩
  have hsame := (hread 0).symm.trans (hread' 0)
  injection hsame with hsame
  injection hsame with hnumber _
  lia

/-!
## Blanks around the text
-/

theorem ofLines_blank_append {lead : List Char} (h : Blank lead)
    (cs : List Char) (number : Nat) :
    ofLines defaultTime number (splitOn '\n' (lead ++ cs)) =
      ofLines defaultTime (number + lead.count '\n') (splitOn '\n' cs) := by
  induction lead generalizing number with
  | nil => rfl
  | cons c lead ih =>
      have hlead : Blank lead := fun d hd => h d (List.mem_cons_of_mem c hd)
      by_cases hc : c = '\n'
      · rw [List.cons_append, splitOn, if_pos hc,
          ofLines_cons_of_ok (ofLine_blank blank_nil number), ih hlead, hc,
          List.count_cons_self, Nat.add_right_comm, Nat.add_assoc]
        cases ofLines defaultTime (number + (lead.count '\n' + 1))
            (splitOn '\n' cs)
          <;> rfl
      · -- The blank goes before the first line, which is trimmed.
        rcases exists_splitOn_eq_cons '\n' (lead ++ cs) with
          ⟨first, more, hsplit⟩
        have hpad : Blank [c] :=
          fun d hd => h d (List.mem_singleton.mp hd ▸ List.mem_cons_self)
        have hfirst : ofLine defaultTime number (c :: first) =
            ofLine defaultTime number first :=
          ofLine_congr (trim_blank_append hpad first) number
        rw [List.cons_append, splitOn_cons_of_ne hc hsplit,
          List.count_cons_of_ne hc, ← ih hlead, hsplit, ofLines,
          ofLines, hfirst]

theorem ofLines_blank {lines : List (List Char)}
    (h : forall line, line ∈ lines -> Blank line) (number : Nat) :
    ofLines defaultTime number lines = .ok [] := by
  induction lines generalizing number with
  | nil => rfl
  | cons line rest ih =>
      rw [ofLines_cons_of_ok (ofLine_blank (h line List.mem_cons_self) number),
        ih fun later hlater => h later (List.mem_cons_of_mem line hlater)]
      rfl

theorem ofLines_append_last {first : List Char} {after : List (List Char)}
    (hfirst : Blank first) (hafter : forall line, line ∈ after -> Blank line)
    (before : List (List Char)) (last : List Char) (number : Nat) :
    ofLines defaultTime number (before ++ (last ++ first) :: after) =
      ofLines defaultTime number (before ++ [last]) := by
  induction before generalizing number with
  | nil =>
      rw [List.nil_append, List.nil_append, ofLines, ofLines,
        ofLines_blank hafter, ofLine_congr (trim_append_of_blank hfirst last)]
      rfl
  | cons line before ih =>
      rw [List.cons_append, List.cons_append, ofLines, ofLines, ih]

theorem ofLines_append_blank {tail : List Char} (h : Blank tail)
    (cs : List Char) (number : Nat) :
    ofLines defaultTime number (splitOn '\n' (cs ++ tail)) =
      ofLines defaultTime number (splitOn '\n' cs) := by
  rcases exists_splitOn_eq_cons '\n' tail with ⟨first, after, htail⟩
  have hpieces : forall piece, piece ∈ first :: after -> Blank piece := by
    intro piece hpiece c hc
    rw [← htail] at hpiece
    exact h c (mem_of_mem_splitOn hpiece hc)
  rcases exists_splitOn_eq_concat '\n' cs with ⟨before, last, hcs⟩
  rw [splitOn_append_of_eq hcs htail, hcs]
  exact ofLines_append_last (hpieces first List.mem_cons_self)
    (fun line hline => hpieces line (List.mem_cons_of_mem first hline)) before
      last number

theorem parse_of_lines (defaultTime : Int64) {source : String}
    (h : items? (trim source.toList) = none) :
    parse source defaultTime =
      ofLines defaultTime 1 (splitOn '\n' (trim source.toList)) := by
  unfold parse parseChars
  simp only [h]
  cases trim source.toList with
  | nil => rfl
  | cons c rest => rfl

theorem ofLines_trim (cs : List Char) (number : Nat) :
    ofLines defaultTime number (splitOn '\n' cs) =
      ofLines defaultTime (number + leadingBreaks cs)
        (splitOn '\n' (trim cs)) := by
  rcases exists_around_trim cs with ⟨tail, hcs, htail⟩
  have hlead : Blank (cs.takeWhile isBlank) :=
    fun c hc => List.mem_takeWhile_imp hc
  calc
    ofLines defaultTime number (splitOn '\n' cs) =
        ofLines defaultTime number
          (splitOn '\n' (cs.takeWhile isBlank ++ (trim cs ++ tail))) := by
      rw [← hcs]
    _ = ofLines defaultTime (number + leadingBreaks cs)
      (splitOn '\n' (trim cs ++ tail)) :=
        ofLines_blank_append hlead _ _
    _ = ofLines defaultTime (number + leadingBreaks cs)
      (splitOn '\n' (trim cs)) :=
        ofLines_append_blank htail _ _

/-- The first line to be refused of a trimmed text is that of the text as it is
given, with the line ends that were trimmed off before it. -/
theorem firstRefused_of_trim {cs : List Char} {number : Nat}
    (h : FirstRefused (splitOn '\n' (trim cs)) number) :
    FirstRefused (splitOn '\n' cs) (number + leadingBreaks cs) := by
  rcases exists_ofLines_eq_error 0 h with ⟨cause, hread⟩
  have hgiven : ofLines 0 1 (splitOn '\n' cs) =
      .error (.invalidRecord (leadingBreaks cs + number) cause) := by
    rw [ofLines_trim, Nat.add_comm 1, hread]
  rcases accepted_or_exists_firstRefused (splitOn '\n' cs) with hall | hrefused
  · rcases exists_ofLines_eq_ok 0 hall with ⟨events, hok⟩
    rw [hok] at hgiven
    cases hgiven
  · rcases hrefused with ⟨number', hrefused⟩
    rcases exists_ofLines_eq_error 0 hrefused with ⟨cause', hread'⟩
    rw [hread' 0] at hgiven
    injection hgiven with hgiven
    injection hgiven with hnumber _
    rw [Nat.zero_add, Nat.add_comm] at hnumber
    rw [← hnumber]
    exact hrefused

theorem exists_firstRefused_trim {cs : List Char} {number : Nat}
    (h : FirstRefused (splitOn '\n' cs) number) :
    exists number', FirstRefused (splitOn '\n' (trim cs)) number' := by
  rcases exists_ofLines_eq_error 0 h with ⟨cause, hread⟩
  rcases accepted_or_exists_firstRefused (splitOn '\n' (trim cs)) with
    hall | hrefused
  · rcases exists_ofLines_eq_ok 0 hall with ⟨events, hok⟩
    have hgiven := hread 0
    rw [ofLines_trim, hok] at hgiven
    cases hgiven
  · exact hrefused

end Lines

/-!
## Reading a text
-/

/-- A text that is read line by line is refused exactly if there is a first line
that is neither blank nor an event.  The number that is told leaves out the line
ends among the blanks that the text begins with, so it is that of the line in
the text exactly if there are none. -/
theorem refused_line_of_parse {source : String} {defaultTime : Int64}
    (hlines : items? (trim source.toList) = none) :
    ((exists error, parse source defaultTime = .error error) <->
      exists number, FirstRefused (splitOn '\n' source.toList) number) ∧
    forall error, parse source defaultTime = .error error ->
      exists number cause, error = .invalidRecord number cause ∧
        FirstRefused (splitOn '\n' source.toList)
          (number + leadingBreaks source.toList) ∧
        (FirstRefused (splitOn '\n' source.toList) number <->
          leadingBreaks source.toList = 0) := by
  have hparse := parse_of_lines defaultTime hlines
  constructor
  · constructor
    · intro h
      rcases h with ⟨error, herror⟩
      rcases accepted_or_exists_firstRefused
          (splitOn '\n' (trim source.toList)) with
        hall | hrefused
      · rcases exists_ofLines_eq_ok defaultTime hall with ⟨events, hok⟩
        rw [hparse, hok] at herror
        cases herror
      · rcases hrefused with ⟨number, hrefused⟩
        exact ⟨_, firstRefused_of_trim hrefused⟩
    · intro h
      rcases h with ⟨_, hgiven⟩
      rcases exists_firstRefused_trim hgiven with ⟨number, hrefused⟩
      rcases exists_ofLines_eq_error defaultTime hrefused with ⟨cause, hread⟩
      exact ⟨_, hparse.trans (hread 0)⟩
  · intro error herror
    rcases accepted_or_exists_firstRefused
        (splitOn '\n' (trim source.toList)) with
      hall | hrefused
    · rcases exists_ofLines_eq_ok defaultTime hall with ⟨events, hok⟩
      rw [hparse, hok] at herror
      cases herror
    · rcases hrefused with ⟨number, hrefused⟩
      rcases exists_ofLines_eq_error defaultTime hrefused with ⟨cause, hread⟩
      have hgiven := firstRefused_of_trim hrefused
      rw [hparse, hread 0, Nat.zero_add] at herror
      injection herror with herror
      refine ⟨number, cause, herror.symm, hgiven, ?_, ?_⟩
      · intro hsame
        have hnumbers := firstRefused_unique hsame hgiven
        lia
      · intro hnone
        rw [hnone] at hgiven
        exact hgiven

def lateNumeral : String :=
  "\n5"

theorem refused_line_of_parse_lateNumeral :
    items? (trim lateNumeral.toList) = none ∧
      FirstRefused (splitOn '\n' lateNumeral.toList) 2 ∧
      (FirstRefused (splitOn '\n' lateNumeral.toList) 1 <->
        leadingBreaks lateNumeral.toList = 0) := by
  have hlines : items? (trim lateNumeral.toList) = none := rfl
  have hread : parse lateNumeral 0 =
      .error (.invalidRecord 1 (.notEvent (.ofInt64 5))) := rfl
  rcases (refused_line_of_parse hlines).2 _ hread with
    ⟨number, cause, hsame, hgiven, hnumber⟩
  injection hsame with hone _
  rw [← hone] at hgiven hnumber
  exact ⟨hlines, hgiven, hnumber⟩

/-- The numeral is refused as on the first line, which is blank. -/
theorem parse_lateNumeral_miscounts :
    items? (trim lateNumeral.toList) = none ∧
      parse lateNumeral 0 = .error (.invalidRecord 1 (.notEvent (.ofInt64 5))) ∧
      Not (FirstRefused (splitOn '\n' lateNumeral.toList) 1) := by
  refine ⟨rfl, rfl, ?_⟩
  intro h
  rcases h with ⟨before, line, after, hsplit, hnumber, _, hblank, _⟩
  cases before with
  | nil =>
      have hlines : splitOn '\n' lateNumeral.toList = [[], ['5']] := rfl
      rw [hlines] at hsplit
      injection hsplit with hline _
      rw [← hline] at hblank
      exact hblank blank_nil
  | cons earlier before => cases hnumber

end Event
end Reshape
