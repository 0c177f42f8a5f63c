import Reshape.Proofs.Expansion.Binding
import Reshape.Proofs.Template.Rendering

/-!
# The tag from its parts

Placeholders for all parts of a tag, with dots between them, come to the tag
itself, also where the tag begins or ends with a dot or has several in a row.
Each part may be counted from the start or from the end.  With one position that
is not that of a part the template still compiles, but it fails for every event.
-/

namespace Reshape

open Template Unicode

/-!
## Lists with a separator
-/

section Separated

variable {ε α β : Type}

theorem map_intersperse (f : α -> β) (separator : α) (items : List α) :
    (items.intersperse separator).map f =
      (items.map f).intersperse (f separator) := by
  induction items with
  | nil => rfl
  | cons first rest ih =>
      cases rest with
      | nil => rfl
      | cons second more =>
          rw [List.intersperse_cons_cons, List.map_cons, List.map_cons, ih]
          rfl

variable {f : α -> Except ε β} {separator : α} {written : β}
  (hseparator : f separator = .ok written)

include hseparator

theorem mapM_intersperse {items : List α} {out : List β}
    (h : List.Forall₂ (fun a b => f a = .ok b) items out) :
    (items.intersperse separator).mapM f = .ok (out.intersperse written) := by
  induction h with
  | nil => rfl
  | cons hfirst hrest ih =>
      cases hrest with
      | nil =>
          rw [List.intersperse_singleton, List.intersperse_singleton,
            mapM_cons_of_ok hfirst]
          rfl
      | cons hsecond hmore =>
          rw [List.intersperse_cons_cons, List.intersperse_cons_cons,
            mapM_cons_of_ok hfirst, mapM_cons_of_ok hseparator, ih]
          rfl

theorem mapM_intersperse_of_error {before after : List α} {a : α} {error : ε}
    (hbefore : forall b, b ∈ before -> exists c, f b = .ok c)
    (ha : f a = .error error) :
    ((before ++ a :: after).intersperse separator).mapM f = .error error := by
  induction before with
  | nil =>
      cases after with
      | nil => exact mapM_cons_of_error ha []
      | cons next rest => exact mapM_cons_of_error ha _
  | cons b before ih =>
      rcases hbefore b List.mem_cons_self with ⟨c, hc⟩
      have hrest :=
        ih fun later hlater => hbefore later (List.mem_cons_of_mem b hlater)
      cases before with
      | nil =>
          show ((b :: a :: after).intersperse separator).mapM f = _
          rw [List.intersperse_cons_cons, mapM_cons_of_ok hc,
            mapM_cons_of_ok hseparator]
          exact congrArg _ (congrArg _ hrest)
      | cons next before =>
          show ((b :: next :: (before ++ a :: after)).intersperse
              separator).mapM f = _
          rw [List.intersperse_cons_cons, mapM_cons_of_ok hc,
            mapM_cons_of_ok hseparator]
          exact congrArg _ (congrArg _ hrest)

end Separated

/-!
## Joining texts in UTF-8
-/

namespace Text

theorem jointCharset_of_utf8 {parts : List Text}
    (h : forall part, part ∈ parts -> part.charset = .utf8) :
    jointCharset parts = .utf8 := by
  have hspeaks : forall charset, Speaks parts charset -> charset = .utf8 := by
    rintro charset ⟨part, hpart, _, rfl⟩
    exact h part hpart
  have hof := charsetOf_jointCharset parts
  generalize jointCharset parts = joint at hof ⊢
  cases hof with
  | plain silent => rfl
  | shared speaks only => exact hspeaks _ speaks
  | mixed speaks speaks_other differ =>
      exact absurd ((hspeaks _ speaks).trans (hspeaks _ speaks_other).symm)
        differ

theorem join_ofString (strings : List String) :
    join (strings.map ofString) = ofString (String.join strings) := by
  have hcharset : jointCharset (strings.map ofString) = .utf8 := by
    apply jointCharset_of_utf8
    intro part hpart
    rcases List.mem_map.mp hpart with ⟨s, _, rfl⟩
    rfl
  have hbytes : (strings.map ofString).flatMap bytes =
      Utf8.ofString (String.join strings) := by
    unfold Utf8.ofString Utf8.encode
    rw [List.flatMap_map, String.toList_join, List.flatMap_assoc]
    rfl
  rw [join, hcharset, hbytes]
  rfl

theorem join_intersperse (separator : String) (strings : List String) :
    join ((strings.map ofString).intersperse (ofString separator)) =
      ofString (separator.intercalate strings) := by
  have hjoined : String.join (strings.intersperse separator) =
      separator.intercalate strings := by
    rw [← String.toList_inj, String.toList_join, String.toList_intercalate,
      List.intercalate, List.flatMap_def, map_intersperse]
  rw [← map_intersperse, join_ofString, hjoined]

end Text

namespace Template

/-!
## Templates of parts
-/

def partExpr (n : Int64) : Expr :=
  ⟨.tagParts, [.position n]⟩

def partSource (position : Int) : String :=
  "tag_parts[" ++ String.ofList (Json.intChars position) ++ "]"

def partPlaceholder (position : Int) : String :=
  "$\x7b" ++ partSource position ++ "\x7d"

/-- Placeholders for parts of the tag, with dots between them. -/
def dotted (positions : List Int) : String :=
  ".".intercalate (positions.map partPlaceholder)

theorem dotted_cons_cons (first second : Int) (more : List Int) :
    dotted (first :: second :: more) =
      partPlaceholder first ++ "." ++ dotted (second :: more) :=
  String.intercalate_cons_cons

theorem parse_partSource (n : Int64) :
    Expr.parse (partSource n.toInt) = .ok (partExpr n) := by
  have hprint : (partExpr n).print = partSource n.toInt := by
    rw [← String.toList_inj]
    simp [Expr.print, Expr.tokens, partExpr, partSource, Root.tokens,
      pathTokens, accessorTokens, innerToken, Token.print]
  rw [← hprint]
  exact Expr.parse_eq_ok_iff.mpr ⟨trivial, Expr.spelledOut_print (partExpr n)⟩

def partPieces : List Int64 -> List Piece
  | [] => []
  | [n] => [⟨partSource n.toInt, partExpr n, ""⟩]
  | n :: m :: rest =>
      ⟨partSource n.toInt, partExpr n, "."⟩ :: partPieces (m :: rest)

def partSegments (positions : List Int64) : List Segment :=
  (positions.map fun n => Segment.expr (partExpr n)).intersperse (.literal ".")

theorem proper_partPieces {positions : List Int64} {piece : Piece}
    (h : piece ∈ partPieces positions) : piece.Proper := by
  fun_induction partPieces positions with
  | case1 => cases h
  | case2 n =>
      rw [List.mem_singleton.mp h]
      exact ⟨parse_partSource n, plain_nil⟩
  | case3 n m rest ih =>
      rcases List.mem_cons.mp h with rfl | hlater
      · have hplain : Plain ".".toList := by
          unfold Plain
          decide
        exact ⟨parse_partSource n, hplain⟩
      · exact ih hlater

theorem written_partPieces (first : String) (positions : List Int64) :
    written first (partPieces positions) =
      first ++ dotted (positions.map Int64.toInt) := by
  fun_induction partPieces positions generalizing first with
  | case1 => exact (String.append_empty).symm
  | case2 n =>
      rw [List.map_singleton, dotted, List.map_singleton,
        String.intercalate_singleton]
      simp only [written, partPlaceholder, String.append_assoc,
        String.append_empty]
  | case3 n m rest ih =>
      rw [List.map_cons, List.map_cons, dotted_cons_cons, written, ih,
        partPlaceholder]
      simp only [String.append_assoc]
      rfl

theorem segmentsOf_partPieces (first : String) (positions : List Int64) :
    segmentsOf first (partPieces positions) =
      literalSegment first ++ partSegments positions := by
  fun_induction partPieces positions generalizing first with
  | case1 => exact (List.append_nil _).symm
  | case2 n => rfl
  | case3 n m rest ih =>
      rw [segmentsOf, ih]
      rfl

def partPlan (positions : List Int64) : Plan :=
  planOf "" (partPieces positions)

theorem partPlan_of_several {positions : List Int64}
    (h : 2 ≤ positions.length) :
    partPlan positions = .template (partSegments positions) := by
  have hsegments := segmentsOf_partPieces "" positions
  unfold partPlan
  fun_cases partPieces positions with
  | case1 => cases h
  | case2 n => exact absurd h (Nat.not_le_of_gt Nat.one_lt_two)
  | case3 n m rest => cases rest <;> exact congrArg Plan.template hsegments

theorem compile_dotted (positions : List Int64) :
    Plan.compile (dotted (positions.map Int64.toInt)) =
      .ok (partPlan positions) := by
  have hcompile : Plan.compile (written "" (partPieces positions)) =
      .ok (partPlan positions) :=
    compile_written plain_nil fun _ => proper_partPieces
  rw [written_partPieces, String.empty_append] at hcompile
  exact hcompile

/-!
## Evaluating
-/

section Evaluating

variable {ctx : Context} {parts : List String}
  (hparts : ctx.tagParts = some parts)

include hparts

theorem evaluate_partExpr (n : Int64) :
    (partExpr n).evaluate ctx = lookupPart parts [.position n] := by
  rw [partExpr, Expr.evaluate, hparts]

theorem evaluate_partSegment (n : Int64) :
    Segment.evaluate ctx (.expr (partExpr n)) =
      (lookupPart parts [.position n]).map part := by
  rw [evaluate_exprSegment, evaluate_partExpr hparts]

theorem evaluate_partPlan {positions : List Int64} {found : List String}
    (hsome : positions ≠ [])
    (h :
      List.Forall₂
        (fun n part => lookupPart parts [.position n] = .ok (.ofString part))
        positions found) :
    (partPlan positions).evaluate ctx =
      .ok (.ofString (".".intercalate found)) := by
  have htexts : List.Forall₂
      (fun segment text => Segment.evaluate ctx segment = .ok text)
      (positions.map fun n => .expr (partExpr n))
      (found.map Text.ofString) := by
    rw [List.forall₂_map_left_iff, List.forall₂_map_right_iff]
    refine h.imp fun n part hpart => ?_
    rw [evaluate_partSegment hparts, hpart]
    rfl
  have hseveral : 2 ≤ positions.length ->
      partPlan positions = .template (partSegments positions) :=
    partPlan_of_several
  cases h with
  | nil => exact absurd rfl hsome
  | @cons n first positions rest hfirst hrest =>
      cases hrest with
      | nil =>
          show (partExpr n).evaluate ctx = _
          rw [evaluate_partExpr hparts, hfirst, String.intercalate_singleton]
      | cons hsecond hmore =>
          have hdot : Segment.evaluate ctx (.literal ".") =
              .ok (Text.ofString ".") := rfl
          rw [hseveral (by simp), evaluate_template, partSegments,
            mapM_intersperse hdot htexts]
          exact congrArg (fun text => Except.ok (Value.text text))
            (Text.join_intersperse "." _)

theorem evaluate_partPlan_of_error {before after : List Int64} {n : Int64}
    {error : EvalError}
    (hbefore :
      forall m, m ∈ before ->
        exists part, lookupPart parts [.position m] = .ok part)
    (hn : lookupPart parts [.position n] = .error error) :
    (partPlan (before ++ n :: after)).evaluate ctx = .error error := by
  by_cases hlone : before = [] ∧ after = []
  · rcases hlone with ⟨rfl, rfl⟩
    exact (evaluate_partExpr hparts n).trans hn
  · have hseveral : 2 ≤ (before ++ n :: after).length := by
      rw [List.length_append, List.length_cons]
      rw [← List.length_eq_zero_iff, ← List.length_eq_zero_iff] at hlone
      lia
    have hdot :
        Segment.evaluate ctx (.literal ".") = .ok (Text.ofString ".") := rfl
    have hpassed :
        forall segment,
            segment ∈ before.map (fun m => Segment.expr (partExpr m)) ->
          exists text, Segment.evaluate ctx segment = .ok text := by
      intro segment hsegment
      rcases List.mem_map.mp hsegment with ⟨m, hm, rfl⟩
      rcases hbefore m hm with ⟨value, hvalue⟩
      rw [evaluate_partSegment hparts, hvalue]
      exact ⟨part value, rfl⟩
    have hstop : Segment.evaluate ctx (.expr (partExpr n)) = .error error := by
      rw [evaluate_partSegment hparts, hn]
      rfl
    rw [partPlan_of_several hseveral, evaluate_template, partSegments,
      List.map_append, List.map_cons,
      mapM_intersperse_of_error hdot hpassed hstop]
    rfl

end Evaluating

/-!
## Positions
-/

/-- The position of a part, from the start or, below zero, from the end. -/
def partPosition (count : Nat) (fromEnd : Nat -> Bool) (i : Nat) : Int :=
  if fromEnd i then i - count else i

def partPositions (count : Nat) (fromEnd : Nat -> Bool) : List Int :=
  (List.range count).map (partPosition count fromEnd)

section Positions

variable {count : Nat} (fromEnd : Nat -> Bool)

theorem offset?_of_partPosition {n : Int64} {i : Nat} (hi : i < count)
    (h : n.toInt = partPosition count fromEnd i) :
    Accessor.offset? n count = some i := by
  unfold partPosition at h
  unfold Accessor.offset?
  cases hend : fromEnd i with
  | true =>
      rw [hend, if_pos rfl] at h
      have hsign : n.toInt < 0 := by lia
      have hplace : (count : Int) + n.toInt = i := by lia
      simp only [if_pos hsign, hplace]
      exact if_pos ⟨Int.natCast_nonneg i, by lia⟩
  | false =>
      rw [hend, if_neg Bool.false_ne_true] at h
      have hsign : Not (n.toInt < 0) := by lia
      simp only [if_neg hsign]
      rw [h]
      exact if_pos ⟨Int.natCast_nonneg i, by lia⟩

theorem lookupPart_of_partPosition {parts : List String} {n : Int64} {i : Nat}
    (hi : i < parts.length)
    (h : n.toInt = partPosition parts.length fromEnd i) :
    lookupPart parts [.position n] = .ok (.ofString parts[i]) := by
  have hfound : ((Accessor.offset? n parts.length).bind fun i => parts[i]?) =
      some parts[i] := by
    rw [offset?_of_partPosition fromEnd hi h]
    exact List.getElem?_eq_getElem hi
  rw [lookupPart, hfound]

/-- Words hold the positions of all parts of a text that has a place in
memory. -/
theorem toInt_ofInt_partPosition (hcount : count ≤ 0x8000000000000000) {i : Nat}
    (hi : i < count) :
    (Int64.ofInt (partPosition count fromEnd i)).toInt =
      partPosition count fromEnd i := by
  have hrange : -0x8000000000000000 ≤ partPosition count fromEnd i ∧
      partPosition count fromEnd i < 0x8000000000000000 := by
    unfold partPosition
    split <;> lia
  exact Int64.toInt_ofInt_of_le (by lia) (by lia)

def partWords (count : Nat) (fromEnd : Nat -> Bool) : List Int64 :=
  (partPositions count fromEnd).map Int64.ofInt

theorem map_toInt_partWords (hcount : count ≤ 0x8000000000000000) :
    (partWords count fromEnd).map Int64.toInt =
      partPositions count fromEnd := by
  unfold partWords
  rw [List.map_map]
  conv_rhs => rw [← List.map_id (partPositions count fromEnd)]
  apply List.map_congr_left
  intro position hposition
  rcases List.mem_map.mp hposition with ⟨i, hi, rfl⟩
  exact toInt_ofInt_partPosition fromEnd hcount (List.mem_range.mp hi)

theorem length_partWords (count : Nat) :
    (partWords count fromEnd).length = count := by
  unfold partWords partPositions
  rw [List.length_map, List.length_map, List.length_range]

theorem lookupPart_partWords {parts : List String}
    (hcount : parts.length ≤ 0x8000000000000000) :
    List.Forall₂
      (fun n part => lookupPart parts [.position n] = .ok (.ofString part))
      (partWords parts.length fromEnd) parts := by
  rw [List.forall₂_iff_get]
  refine ⟨length_partWords fromEnd parts.length, ?_⟩
  intro i _ hi
  simp only [partWords, partPositions, List.get_eq_getElem, List.getElem_map,
    List.getElem_range]
  exact lookupPart_of_partPosition fromEnd hi
    (toInt_ofInt_partPosition fromEnd hcount hi)

theorem exists_of_mem_partWords {parts : List String}
    (hcount : parts.length ≤ 0x8000000000000000) {n : Int64}
    (h : n ∈ partWords parts.length fromEnd) :
    exists part, lookupPart parts [.position n] = .ok part := by
  rcases List.mem_map.mp h with ⟨position, hposition, rfl⟩
  rcases List.mem_map.mp hposition with ⟨i, hmem, rfl⟩
  have hi := List.mem_range.mp hmem
  have hword := toInt_ofInt_partPosition fromEnd hcount hi
  exact ⟨.ofString parts[i], lookupPart_of_partPosition fromEnd hi hword⟩

end Positions

end Template

namespace Transformer

theorem intercalate_partsOf (tag : String) :
    ".".intercalate (partsOf tag) = tag := by
  have hpieces : (partsOf tag).map String.toList = splitOn '.' tag.toList := by
    unfold partsOf
    rw [List.map_map]
    conv_rhs => rw [← List.map_id (splitOn '.' tag.toList)]
    exact List.map_congr_left fun piece _ => String.toList_ofList
  rw [← String.toList_inj, String.toList_intercalate, hpieces]
  exact (joinWith_eq_intercalate '.' _).symm.trans
    (joinWith_splitOn '.' tag.toList)

theorem length_partsOf_le (tag : String) :
    (partsOf tag).length ≤ (Utf8.ofString tag).length + 1 := by
  have hbytes : tag.toList.length ≤ (Utf8.ofString tag).length :=
    Utf8.length_le_length_encode tag.toList
  rw [length_partsOf]
  exact Nat.succ_le_succ (List.count_le_length.trans hbytes)

theorem evaluate_plan_context {t : Transformer} {field : Field}
    (hfield : field ∈ t.fields) (host : Host) (tag : String) (time : Int64)
    (record : Record) :
    field.plan.evaluate (t.context host tag time record) =
      field.plan.evaluate (boundContext host tag time record) :=
  evaluate_plan_congr
    fun _ he => t.evaluate_context host tag time record hfield he

/-- The template compiles, and in every transformer it gives the answer for
events with the tag, whatever is in their records. -/
def Answers (tag template : String) (answer : Except EvalError Value) : Prop :=
  exists plan, Plan.compile template = .ok plan ∧
    forall (t : Transformer) (key : String), ⟨key, plan⟩ ∈ t.fields ->
      forall (host : Host) (time : Int64) (record : Record),
        plan.evaluate (t.context host tag time record) = answer

theorem answers_of_bound {tag template : String}
    {answer : Except EvalError Value} {plan : Plan}
    (hcompile : Plan.compile template = .ok plan)
    (h :
      forall ctx, ctx.tag = tag -> ctx.tagParts = some (partsOf tag) ->
        plan.evaluate ctx = answer) : Answers tag template answer := by
  refine ⟨plan, hcompile, ?_⟩
  intro t key hfield host time record
  have hbound := evaluate_plan_context hfield host tag time record
  exact hbound.trans (h (boundContext host tag time record) rfl rfl)

theorem answers_tag (tag : String) :
    Answers tag "$\x7btag\x7d" (.ok (.ofString tag)) := by
  have hcompile : Plan.compile "$\x7btag\x7d" = .ok (.raw ⟨.tag, []⟩) := by
    with_unfolding_all rfl
  apply answers_of_bound hcompile
  rintro ctx rfl _
  rfl

def partCount (tag : String) : Nat :=
  tag.toList.count '.' + 1

/-- All parts of the tag with dots between them are the tag, however they are
counted.  A position that is not that of a part, in place of any of them, lets
the template fail. -/
theorem answers_dotted (tag : String)
    (hsize : (Utf8.ofString tag).length < 0x8000000000000000)
    (fromEnd : Nat -> Bool) :
    Answers tag "$\x7btag\x7d" (.ok (.text ⟨Utf8.ofString tag, .utf8⟩)) ∧
      Answers tag (dotted (partPositions (partCount tag) fromEnd))
        (.ok (.text ⟨Utf8.ofString tag, .utf8⟩)) ∧
      forall (i : Nat) (m : Int64), i < partCount tag ->
        Not (-(partCount tag : Int) ≤ m.toInt ∧ m.toInt < partCount tag) ->
          Answers tag
            (dotted ((partPositions (partCount tag) fromEnd).set i m.toInt))
            (.error (.indexOutOfRange "tag_parts" m.toInt
              (partCount tag))) := by
  have hlength : (partsOf tag).length = partCount tag := length_partsOf tag
  have hcount : (partsOf tag).length ≤ 0x8000000000000000 := by
    have hle := length_partsOf_le tag
    lia
  rw [← hlength]
  have hwords := map_toInt_partWords fromEnd hcount
  refine ⟨answers_tag tag, ?_, ?_⟩
  · have hsome : partWords (partsOf tag).length fromEnd ≠ [] := by
      rw [← List.length_pos_iff, length_partWords, hlength]
      exact Nat.succ_pos _
    rw [← hwords]
    apply answers_of_bound (compile_dotted _)
    intro ctx _ hparts
    rw [evaluate_partPlan hparts hsome (lookupPart_partWords fromEnd hcount),
      intercalate_partsOf]
    rfl
  · intro i m hi hm
    have hset : (partPositions (partsOf tag).length fromEnd).set i m.toInt =
        ((partWords (partsOf tag).length fromEnd).set i m).map Int64.toInt := by
      rw [List.map_set, hwords]
    rw [hset]
    apply answers_of_bound (compile_dotted _)
    intro ctx _ hparts
    rw [← length_partWords fromEnd (partsOf tag).length] at hi
    rw [List.set_eq_take_append_cons_drop, if_pos hi]
    refine evaluate_partPlan_of_error hparts ?_ (lookupPart_of_not_inside hm)
    intro n hn
    exact exists_of_mem_partWords fromEnd hcount (List.mem_of_mem_take hn)

theorem answers_dotted_empty_ends :
    ((Utf8.ofString ".a.").length < 0x8000000000000000 ∧
        Answers ".a." (dotted [0, -2, 2])
          (.ok (.text ⟨[0x2E, 0x61, 0x2E], .utf8⟩))) ∧
      2 < partCount ".a." ∧
        Not (-3 ≤ (-4 : Int64).toInt ∧ (-4 : Int64).toInt < 3) ∧
        Answers ".a." (dotted [0, -2, -4])
          (.error (.indexOutOfRange "tag_parts" (-4) 3)) := by
  have hsize : (Utf8.ofString ".a.").length < 0x8000000000000000 := by decide
  rcases answers_dotted ".a." hsize (· == 1) with ⟨_, hparts, houtside⟩
  have hfails := houtside 2 (-4) (by decide) (by decide)
  exact ⟨⟨hsize, hparts⟩, by decide, by decide, hfails⟩

end Transformer
end Reshape
