import Mathlib.Data.List.Forall2
import Reshape.Proofs.Unicode.Decoding
import Reshape.Time.Formatter

/-!
# Patterns piece by piece

A pattern is a row of pieces, each a character that stands for itself or a
directive.  What is written for it is what is written for its pieces, one after
another, unless the directive `%#z` is among them: it is for reading only.  Then
nothing is written at all.
-/

namespace Reshape
namespace Time

/-!
## Writing items
-/

theorem writeItem_eq_none_iff {r : Reading} {item : Item} :
    writeItem r item = none <-> item = .anyOffset := by
  cases item with
  | anyOffset => exact iff_of_true rfl rfl
  | literal c => constructor <;> nofun
  | number n padding => constructor <;> nofun
  | name n => constructor <;> nofun
  | fraction pointed digits => constructor <;> nofun
  | zoneName => constructor <;> nofun
  | offset style => constructor <;> nofun
  | internet => constructor <;> nofun

theorem writeItems?_cons (r : Reading) (item : Item) (rest : List Item) :
    writeItems? r (item :: rest) =
      (writeItem r item).bind
        fun text => (writeItems? r rest).map (text ++ ·) := by
  unfold writeItems?
  rw [List.mapM_cons]
  cases writeItem r item with
  | none => rfl
  | some text => cases rest.mapM (writeItem r) <;> rfl

theorem writeItems?_append (r : Reading) (items others : List Item) :
    writeItems? r (items ++ others) =
      (writeItems? r items).bind
        fun text => (writeItems? r others).map (text ++ ·) := by
  induction items with
  | nil =>
      show writeItems? r others = (writeItems? r others).map id
      rw [Option.map_id]
      rfl
  | cons item rest ih =>
      rw [List.cons_append, writeItems?_cons, writeItems?_cons, ih]
      cases writeItem r item with
      | none => rfl
      | some text =>
          cases writeItems? r rest with
          | none => rfl
          | some more =>
              cases writeItems? r others with
              | none => rfl
              | some last => simp

theorem writeItems?_eq_none_iff {r : Reading} {items : List Item} :
    writeItems? r items = none <-> .anyOffset ∈ items := by
  induction items with
  | nil => constructor <;> nofun
  | cons item rest ih =>
      rw [writeItems?_cons, List.mem_cons, ← ih]
      cases hitem : writeItem r item with
      | none =>
          exact iff_of_true rfl (.inl (writeItem_eq_none_iff.mp hitem).symm)
      | some text =>
          have hother : .anyOffset ≠ item := by
            rintro rfl
            cases hitem
          simp [hother]

/-!
## Directives
-/

def openers : List Char :=
  [':', '.', '3', '6', '9', '#']

theorem directive?_of_not_opener {c : Char} (h : Not (c ∈ openers))
    (rest : List Char) : directive? (c :: rest) = match padding? c with
      | none => (letter? c).map fun items => (items, 1)
      | some padding =>
          match rest with
          | [] => none
          | d :: _ =>
              ((letter? d).bind (repad? padding)).map
                fun items => (items, 2) := by
  have hne : forall d, d ∈ openers -> c = d -> False :=
    fun d hd heq => h (heq ▸ hd)
  -- None of the patterns before the one for a letter alone begins with this
  -- character.
  apply directive?.eq_12
  all_goals
    intro _ heq _
    exact hne _ (by decide) heq

theorem not_opener_of_letter? {c : Char} {items : List Item}
    (h : letter? c = some items) : Not (c ∈ openers) := by
  intro hmem
  simp only [openers, List.mem_cons, List.not_mem_nil, or_false] at hmem
  rcases hmem with rfl | rfl | rfl | rfl | rfl | rfl <;> cases h

theorem not_opener_of_padding? {c : Char} {padding : Padding}
    (h : padding? c = some padding) : Not (c ∈ openers) := by
  intro hmem
  simp only [openers, List.mem_cons, List.not_mem_nil, or_false] at hmem
  rcases hmem with rfl | rfl | rfl | rfl | rfl | rfl <;> cases h

theorem anyOffset_not_mem_of_letter? {c : Char} {items : List Item}
    (h : letter? c = some items) : Not (.anyOffset ∈ items) := by
  unfold letter? at h
  split at h
  all_goals cases h
  all_goals
    simp [monthDayYear, clock, twelveHourClock, dateAndClock, zeros,
      spaces, bare]

theorem anyOffset_not_mem_of_repad? {padding : Padding}
    {items repadded : List Item} (h : repad? padding items = some repadded) :
    Not (.anyOffset ∈ repadded) := by
  unfold repad? at h
  split at h
  · cases h
    simp
  · cases h

/-- Only the characters that a directive takes have a say in it. -/
theorem directive?_take {cs : List Char} {items : List Item} {used : Nat}
    (h : directive? cs = some (items, used)) :
    used ≤ cs.length ∧
      forall rest, directive? (cs.take used ++ rest) = some (items, used) := by
  unfold directive? at h
  split at h
  case h_12 c rest _ _ _ _ _ _ _ _ _ _ _ =>
    cases hpadding : padding? c with
    | none =>
        rw [hpadding] at h
        rcases Option.map_eq_some_iff.mp h with ⟨found, hletter, heq⟩
        cases heq
        refine ⟨by simp, ?_⟩
        intro rest'
        show directive? (c :: rest') = _
        rw [directive?_of_not_opener (not_opener_of_letter? hletter), hpadding]
        exact h
    | some padding =>
        rw [hpadding] at h
        cases rest with
        | nil => cases h
        | cons d rest =>
            rcases Option.map_eq_some_iff.mp h with ⟨found, hletter, heq⟩
            cases heq
            refine ⟨by simp, ?_⟩
            intro rest'
            show directive? (c :: d :: rest') = _
            rw [directive?_of_not_opener (not_opener_of_padding? hpadding),
              hpadding]
            exact h
  case h_13 => cases h
  all_goals
    cases h
    exact ⟨by simp, fun _ => rfl⟩

theorem anyOffset_mem_iff_of_directive? {cs : List Char} {items : List Item}
    {used : Nat} (h : directive? cs = some (items, used)) :
    .anyOffset ∈ items <-> cs.take used = ['#', 'z'] := by
  unfold directive? at h
  split at h
  case h_11 =>
    cases h
    simp
  case h_12 c rest _ _ _ _ _ _ _ _ _ _ hhash =>
    cases hpadding : padding? c with
    | none =>
        rw [hpadding] at h
        rcases Option.map_eq_some_iff.mp h with ⟨found, hletter, heq⟩
        cases heq
        exact iff_of_false (anyOffset_not_mem_of_letter? hletter) (by simp)
    | some padding =>
        have hc : c ≠ '#' := by
          rintro rfl
          cases hpadding
        rw [hpadding] at h
        cases rest with
        | nil => cases h
        | cons d rest =>
            rcases Option.map_eq_some_iff.mp h with ⟨found, hletter, heq⟩
            cases heq
            rcases Option.bind_eq_some_iff.mp hletter with ⟨_, _, hrepad⟩
            exact iff_of_false (anyOffset_not_mem_of_repad? hrepad)
              (by simp [hc])
  case h_13 => cases h
  all_goals
    cases h
    exact iff_of_false (by simp) (by simp)

/-!
## Pieces
-/

inductive Piece where
  | plain (c : Char)
  /-- A percent sign and what comes after it. -/
  | directive (letters : List Char)

namespace Piece

def chars : Piece -> List Char
  | plain c => [c]
  | directive letters => '%' :: letters

inductive StandsFor : Piece -> List Item -> Prop
  | plain {c : Char} (unmarked : c ≠ '%') : StandsFor (.plain c) [.literal c]
  | directive {letters : List Char} {items : List Item}
      (read : directive? letters = some (items, letters.length)) :
      StandsFor (.directive letters) items

/-- What is written for a piece of a pattern: a character as it is, and the
items of a directive in a row. -/
inductive Writes (r : Reading) : Piece -> List Char -> Prop
  | plain {c : Char} (unmarked : c ≠ '%') : Writes r (.plain c) [c]
  | directive {letters text : List Char} {items : List Item}
      (read : directive? letters = some (items, letters.length))
      (written : writeItems? r items = some text) :
      Writes r (.directive letters) text

def readOnly : Piece :=
  .directive ['#', 'z']

theorem StandsFor.anyOffset_mem_iff {piece : Piece} {items : List Item}
    (h : piece.StandsFor items) : .anyOffset ∈ items <-> piece = readOnly := by
  cases h with
  | plain unmarked => simp [readOnly]
  | directive read =>
      rw [anyOffset_mem_iff_of_directive? read, List.take_length]
      simp [readOnly]

theorem StandsFor.writes_iff {piece : Piece} {items : List Item}
    (h : piece.StandsFor items) {r : Reading} {text : List Char} :
    piece.Writes r text <-> writeItems? r items = some text := by
  cases h with
  | plain unmarked =>
      constructor
      · intro h
        cases h
        rfl
      · intro h
        cases h
        exact .plain unmarked
  | directive read =>
      constructor
      · intro h
        cases h with
        | directive read' written =>
            rw [read] at read'
            cases read'
            exact written
      · exact .directive read

end Piece

theorem items?_plain {c : Char} (h : c ≠ '%') (rest : List Char) :
    items? (c :: rest) = (items? rest).map (.literal c :: ·) := by
  rw [items?, if_neg h]
  cases items? rest <;> rfl

theorem items?_directive {letters : List Char} {items : List Item}
    (h : directive? letters = some (items, letters.length)) (rest : List Char) :
    items? ('%' :: (letters ++ rest)) = (items? rest).map (items ++ ·) := by
  have hread := (directive?_take h).right rest
  rw [List.take_length] at hread
  rw [items?, if_pos rfl, hread]
  show Option.bind (items? ((letters ++ rest).drop letters.length)) _ = _
  rw [List.drop_left]
  cases items? rest <;> rfl

/-- The pattern is the pieces in a row, each of which stands for something. -/
def Cut (pieces : List Piece) (cs : List Char) : Prop :=
  cs = pieces.flatMap Piece.chars ∧
    forall piece, piece ∈ pieces -> exists items, piece.StandsFor items

theorem exists_cut {cs : List Char} {items : List Item}
    (h : items? cs = some items) : exists pieces, Cut pieces cs := by
  fun_induction items? cs generalizing items with
  | case1 => exact ⟨[], rfl, nofun⟩
  | case2 rest ih =>
      rcases Option.bind_eq_some_iff.mp h with ⟨⟨found, used⟩, hread, hmore⟩
      rcases Option.bind_eq_some_iff.mp hmore with ⟨more, hrest, _⟩
      rcases directive?_take hread with ⟨hused, htake⟩
      rcases ih _ hrest with ⟨pieces, hpieces, hstand⟩
      have hfirst : Piece.StandsFor (.directive (rest.take used)) found := by
        apply Piece.StandsFor.directive
        rw [List.length_take_of_le hused, ← htake [], List.append_nil]
      refine ⟨.directive (rest.take used) :: pieces, ?_,
        List.forall_mem_cons.mpr ⟨⟨found, hfirst⟩, hstand⟩⟩
      rw [List.flatMap_cons, ← hpieces, Piece.chars, List.cons_append,
        List.take_append_drop]
  | case3 c rest hc ih =>
      rcases Option.bind_eq_some_iff.mp h with ⟨more, hrest, _⟩
      rcases ih hrest with ⟨pieces, hpieces, hstand⟩
      refine ⟨.plain c :: pieces, ?_,
        List.forall_mem_cons.mpr ⟨⟨_, .plain hc⟩, hstand⟩⟩
      rw [List.flatMap_cons, ← hpieces]
      rfl

theorem items?_of_cut {pieces : List Piece} {cs : List Char}
    (h : Cut pieces cs) :
    exists meanings, List.Forall₂ Piece.StandsFor pieces meanings ∧
      items? cs = some meanings.flatten := by
  rcases h with ⟨rfl, hstand⟩
  induction pieces with
  | nil =>
      refine ⟨[], .nil, ?_⟩
      rw [List.flatMap_nil, items?]
      rfl
  | cons piece pieces ih =>
      rcases List.forall_mem_cons.mp hstand with ⟨⟨items, hfirst⟩, hrest⟩
      rcases ih hrest with ⟨meanings, hmeanings, hread⟩
      refine ⟨items :: meanings, .cons hfirst hmeanings, ?_⟩
      rw [List.flatMap_cons, List.flatten_cons]
      cases hfirst with
      | plain unmarked =>
          show items? (_ :: pieces.flatMap Piece.chars) = _
          rw [items?_plain unmarked, hread]
          rfl
      | directive read =>
          show items? ('%' :: (_ ++ pieces.flatMap Piece.chars)) = _
          rw [items?_directive read, hread]
          rfl

/-!
## Writing pieces
-/

section Writing

variable {r : Reading} {pieces : List Piece} {meanings : List (List Item)}

theorem writeItems?_flatten_iff
    (h : List.Forall₂ Piece.StandsFor pieces meanings) {text : List Char} :
    writeItems? r meanings.flatten = some text <->
      exists texts, List.Forall₂ (Piece.Writes r) pieces texts ∧
        text = texts.flatten := by
  induction h generalizing text with
  | nil =>
      constructor
      · intro h
        cases h
        exact ⟨[], .nil, rfl⟩
      · rintro ⟨texts, htexts, rfl⟩
        cases htexts
        rfl
  | cons hfirst hrest ih =>
      rw [List.flatten_cons, writeItems?_append, Option.bind_eq_some_iff]
      constructor
      · rintro ⟨first, hwritten, hjoined⟩
        rcases Option.map_eq_some_iff.mp hjoined with ⟨more, hmore, rfl⟩
        rcases ih.mp hmore with ⟨texts, htexts, rfl⟩
        exact ⟨first :: texts, .cons (hfirst.writes_iff.mpr hwritten) htexts,
          rfl⟩
      · rintro ⟨texts, htexts, rfl⟩
        cases htexts with
        | @cons _ first _ texts hwrites htexts =>
            exact ⟨first, hfirst.writes_iff.mp hwrites,
              Option.map_eq_some_iff.mpr
                ⟨texts.flatten, ih.mpr ⟨texts, htexts, rfl⟩, rfl⟩⟩

theorem anyOffset_mem_flatten_iff
    (h : List.Forall₂ Piece.StandsFor pieces meanings) :
    .anyOffset ∈ meanings.flatten <-> Piece.readOnly ∈ pieces := by
  induction h with
  | nil => constructor <;> nofun
  | cons hfirst hrest ih =>
      rw [List.flatten_cons, List.mem_append, List.mem_cons, ih,
        hfirst.anyOffset_mem_iff, eq_comm]

end Writing

end Time

namespace TimeFormatter

open Time

theorem eq_of_ofPattern {pattern : String} {localTime : Bool}
    {f : TimeFormatter} (h : ofPattern pattern localTime = .ok f) :
    exists items, items? pattern.toList = some items ∧
      f = ⟨.pattern items, localTime⟩ := by
  unfold ofPattern at h
  split at h
  · rename_i items hitems
    cases h
    exact ⟨items, hitems, rfl⟩
  · cases h

theorem render_pattern {items : List Item} {localTime : Bool} (host : Host)
    {time : Int64} (h : isDated time.toInt = true) :
    render ⟨.pattern items, localTime⟩ host time =
      .ok (.ofString
        (String.ofList
          ((writeItems? (reading ⟨.pattern items, localTime⟩ host time)
              items).getD
            []))) := by
  unfold render renderChars
  simp only [h, Bool.not_true, Bool.false_eq_true, if_false]
  rfl

/-- A pattern that is accepted can be cut into pieces.  At a time of the
calendar, what is written for it is what is written for its pieces, one after
another, exactly if none of them is for reading only; and nothing at all is
written if one is. -/
theorem render_pieces_iff {pattern : String} {localTime : Bool}
    {f : TimeFormatter} (h : ofPattern pattern localTime = .ok f) :
    (exists pieces, Cut pieces pattern.toList) ∧
      forall (host : Host) (time : Int64)
        (pieces : List Piece), isDated time.toInt = true ->
        Cut pieces pattern.toList ->
          ((exists texts,
            List.Forall₂ (Piece.Writes (f.reading host time)) pieces texts ∧
              f.render host time =
                .ok (.ofString (String.ofList texts.flatten))) <->
            Not (Piece.readOnly ∈ pieces)) ∧
          (Piece.readOnly ∈ pieces ->
            f.render host time = .ok (.ofString "")) := by
  rcases eq_of_ofPattern h with ⟨items, hitems, rfl⟩
  refine ⟨exists_cut hitems, ?_⟩
  intro host time pieces hdated hcut
  rcases items?_of_cut hcut with ⟨meanings, hmeanings, hread⟩
  rw [hitems] at hread
  cases hread
  have hreadOnly := anyOffset_mem_flatten_iff hmeanings
  have hnone : writeItems?
      (reading ⟨.pattern meanings.flatten, localTime⟩ host time)
      meanings.flatten = none <->
        .anyOffset ∈ meanings.flatten := writeItems?_eq_none_iff
  rw [render_pattern host hdated]
  constructor
  · constructor
    · rintro ⟨texts, htexts, _⟩ hmem
      have hwritten :=
        (writeItems?_flatten_iff hmeanings).mpr ⟨texts, htexts, rfl⟩
      rw [hnone.mpr (hreadOnly.mpr hmem)] at hwritten
      cases hwritten
    · intro hmem
      cases hwritten : writeItems?
        (reading ⟨.pattern meanings.flatten, localTime⟩ host time)
          meanings.flatten with
      | none => exact absurd (hreadOnly.mp (hnone.mp hwritten)) hmem
      | some text =>
          rcases (writeItems?_flatten_iff hmeanings).mp hwritten with
            ⟨texts, htexts, rfl⟩
          exact ⟨texts, htexts, rfl⟩
  · intro hmem
    rw [hnone.mpr (hreadOnly.mpr hmem)]
    rfl

def bracketedDay : List Piece :=
  [.plain '[', .directive ['e'], .plain ']', .directive [':', 'z']]

theorem render_pieces_iff_bracketedDay :
    exists f, ofPattern "[%e]%:z" true = .ok f ∧
      isDated (0 : Int64).toInt = true ∧
      Cut bracketedDay "[%e]%:z".toList ∧ Not (Piece.readOnly ∈ bracketedDay) ∧
      exists texts,
        List.Forall₂ (Piece.Writes (f.reading ⟨[], [], 19800⟩ 0))
          bracketedDay texts ∧
        f.render ⟨[], [], 19800⟩ 0 =
          .ok (.ofString (String.ofList texts.flatten)) := by
  have h : ofPattern "[%e]%:z" true =
      .ok ⟨.pattern [.literal '[', spaces .day, .literal ']', .offset .colon],
        true⟩ := by
    with_unfolding_all rfl
  have hcut : Cut bracketedDay "[%e]%:z".toList := by
    refine ⟨rfl, ?_⟩
    simp only [bracketedDay, List.mem_cons, List.not_mem_nil, or_false,
      forall_eq_or_imp, forall_eq]
    exact ⟨⟨_, .plain (by decide)⟩, ⟨_, .directive rfl⟩,
      ⟨_, .plain (by decide)⟩, ⟨_, .directive rfl⟩⟩
  have hnot : Not (Piece.readOnly ∈ bracketedDay) := by
    simp [bracketedDay, Piece.readOnly]
  exact ⟨_, h, rfl, hcut, hnot,
    ((render_pieces_iff h).right ⟨[], [], 19800⟩ 0 bracketedDay rfl
        hcut).left.mpr
      hnot⟩

/-- A pattern is accepted whose text is empty, though it has two letters to be
written. -/
theorem render_anyOffset_drops_letters :
    exists f, ofPattern "a%#zb" false = .ok f ∧
      isDated (0 : Int64).toInt = true ∧
      f.render ⟨[], [], 0⟩ 0 = .ok (.ofString "") ∧
      forall pieces texts, "a%#zb".toList = pieces.flatMap Piece.chars ->
        List.Forall₂ (Piece.Writes (f.reading ⟨[], [], 0⟩ 0)) pieces texts ->
          f.render ⟨[], [], 0⟩ 0 ≠
            .ok (.ofString (String.ofList texts.flatten)) := by
  have h : ofPattern "a%#zb" false =
      .ok ⟨.pattern [.literal 'a', .anyOffset, .literal 'b'], false⟩ := by
    with_unfolding_all rfl
  refine ⟨_, h, rfl, rfl, ?_⟩
  intro pieces texts hchars hwrites hrender
  have hempty : texts.flatten = [] := by
    injection hrender with hrender
    injection hrender with htext
    have hshown := congrArg Text.shown htext
    rw [Text.shown_ofString, Text.shown_ofString] at hshown
    have hchars := congrArg String.toList hshown
    rw [String.toList_ofList, String.toList_ofList] at hchars
    exact hchars.symm
  cases hwrites with
  | nil => cases hchars
  | cons hfirst hrest =>
      cases hfirst with
      | plain unmarked => cases hempty
      | directive read written => cases hchars

end TimeFormatter
end Reshape
