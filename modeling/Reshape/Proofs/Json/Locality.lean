import Mathlib.Data.List.DropRight
import Reshape.Proofs.Json.RoundTrip
import Reshape.Proofs.Json.Spacing

/-!
# The texts of values

Each value that is read has a text of its own, on which alone it depends, and so
it is read from the compact text too.  This is seen from the first character of
the value, and by induction on the levels that it may be nested.
-/

namespace Reshape
namespace Json

/-!
## Values
-/

theorem skipSpace_skipSpace (cs : List Char) :
    skipSpace (skipSpace cs) = skipSpace cs :=
  List.dropWhile_idempotent isSpace cs

theorem value?_skipSpace (depth : Nat) (cs : List Char) :
    value? depth (skipSpace cs) = value? depth cs := by
  unfold value?
  rw [skipSpace_skipSpace]

theorem member?_skipSpace (read? : List Char -> Option (Json × List Char))
    (cs : List Char) : member? read? (skipSpace cs) = member? read? cs := by
  unfold member?
  rw [skipSpace_skipSpace]

theorem literal?_eq_some {word cs rest : List Char} {json value : Json}
    (h : literal? word json cs = some (value, rest)) :
    cs = word ++ rest ∧ value = json := by
  unfold literal? at h
  split at h
  · rename_i hword
    cases h
    rcases List.isPrefixOf_iff_prefix.mp hword with ⟨rest, rfl⟩
    exact ⟨by rw [List.drop_left], rfl⟩
  · cases h

theorem taken_string (depth : Nat) {cs rest : List Char} {s : String}
    (h : string? cs = some (s, rest)) :
    Taken (value? depth) cs (.string s) rest := by
  rcases string?_eq_some h with ⟨inner, rfl, hquoted, hreads⟩
  have hvalue : Reads (value? depth) (quote inner) (.string s) := by
    intro rest' _
    show value? depth ('"' :: (inner ++ ['"'] ++ rest')) = _
    rw [value?, skipSpace_cons rfl]
    show Option.map _ (string? (quote inner ++ rest')) = _
    rw [hreads]
    rfl
  have hcompact := compact_quote hquoted
  refine ⟨quote inner, rfl, hvalue, ?_, complete_quote hquoted, ?_⟩
  · rw [hcompact]
    exact hvalue
  · rw [hcompact]
    exact newline_not_mem_quote hquoted

theorem takes_list {α : Type} {read? : List Char -> Option (List α × List Char)}
    {depth : Nat} {opening close : Char} {inner : List Char} {items : List α}
    {json : Json} (hopening : isSpace opening = false ∧ opening ≠ '"')
    (hvalue :
      forall cs rest, read? cs = some (items, rest) ->
        value? (depth + 1) (opening :: cs) = some (json, rest))
    (h : Takes read? (inner ++ [close]) items) :
    Takes (value? (depth + 1)) (opening :: (inner ++ [close])) json := by
  have hcompact := compact_cons hopening.left hopening.right (inner ++ [close])
  refine ⟨?_, ?_, complete_cons hopening.right h.complete, ?_⟩
  · intro rest hrest
    exact hvalue _ rest (h.reads rest hrest)
  · rw [hcompact]
    intro rest hrest
    exact hvalue _ rest (h.reads_compact rest hrest)
  · rw [hcompact]
    intro hmem
    rcases List.mem_cons.mp hmem with rfl | hmem
    · cases hopening.left
    · exact h.one_line hmem

theorem value?_bracket (depth : Nat) (cs : List Char) :
    value? (depth + 1) ('[' :: cs) =
      (items? (value? depth) ']' cs).map
        fun read => (.array read.1, read.2) := by
  rw [value?, skipSpace_cons rfl]
  rfl

theorem value?_brace (depth : Nat) (cs : List Char) :
    value? (depth + 1) ('\x7b' :: cs) =
      (items? (member? (value? depth)) '\x7d' cs).map
        fun read => (.object read.1, read.2) := by
  rw [value?, skipSpace_cons rfl]
  rfl

theorem takes_array {depth : Nat} {inner : List Char} {items : List Json}
    (h : Takes (items? (value? depth) ']') (inner ++ [']']) items) :
    Takes (value? (depth + 1)) ('[' :: (inner ++ [']'])) (.array items) := by
  refine takes_list ⟨rfl, by decide⟩ ?_ h
  intro cs rest hread
  rw [value?_bracket, hread]
  rfl

theorem takes_object {depth : Nat} {inner : List Char}
    {members : List (String × Json)}
    (h :
      Takes (items? (member? (value? depth)) '\x7d') (inner ++ ['\x7d'])
        members) :
    Takes (value? (depth + 1)) ('\x7b' :: (inner ++ ['\x7d']))
      (.object members) := by
  refine takes_list ⟨rfl, by decide⟩ ?_ h
  intro cs rest hread
  rw [value?_brace, hread]
  rfl

theorem reads_member_spaced {read? : List Char -> Option (Json × List Char)}
    {inner text : List Char} {key : String} {value : Json}
    (hkey : forall rest, string? (quote inner ++ rest) = some (key, rest))
    (h : Reads read? text value) {pad : List Char} (hpad : Spaces pad) :
    Reads (member? read?) (quote inner ++ (pad ++ ':' :: text))
      (key, value) := by
  intro rest hrest
  have htext : quote inner ++ (pad ++ ':' :: text) ++ rest =
      quote inner ++ (pad ++ ':' :: (text ++ rest)) := by simp
  have hskip : skipSpace (quote inner ++ (pad ++ ':' :: (text ++ rest))) =
      quote inner ++ (pad ++ ':' :: (text ++ rest)) :=
    skipSpace_cons rfl _
  have hcolon :
      skipSpace (pad ++ ':' :: (text ++ rest)) = ':' :: (text ++ rest) :=
    skipSpace_front hpad rfl _
  simp only [htext, member?, hskip, hkey, Option.bind_eq_bind, Option.bind_some,
    hcolon, h rest hrest]
  rfl

theorem local_member? {read? : List Char -> Option (Json × List Char)}
    (hlocal : Local read?) : Local (member? read?) := by
  intro cs member rest h
  rcases Option.bind_eq_some_iff.mp h with ⟨⟨key, left⟩, hkey, hgoes⟩
  rcases string?_eq_some hkey with ⟨inner, hfront, hquoted, hreads⟩
  rcases exists_of_skipSpace hfront with ⟨pad, rfl, hpad, _⟩
  dsimp only at hgoes
  split at hgoes
  · rename_i more hcolon
    rcases exists_of_skipSpace hcolon with ⟨pad', rfl, hpad', _⟩
    rcases Option.bind_eq_some_iff.mp hgoes with ⟨⟨value, left⟩, hvalue, heq⟩
    cases heq
    rcases hlocal hvalue with ⟨text, rfl, htakes⟩
    have hcompact : compact (quote inner ++ (pad' ++ ':' :: text)) =
        quote inner ++ ':' :: compact text := by
      rw [compact_spaced (complete_quote hquoted) hpad' rfl (by decide),
        compact_quote hquoted]
    refine ⟨pad ++ (quote inner ++ (pad' ++ ':' :: text)), by simp [quote], ?_⟩
    refine takes_after_spaces (member?_skipSpace read?) hpad
      ⟨reads_member_spaced hreads htakes.reads hpad', ?_,
        complete_spaced (complete_quote hquoted) hpad' (by decide)
          htakes.complete,
        ?_⟩
    · rw [hcompact]
      exact reads_member_spaced hreads htakes.reads_compact spaces_nil
    · refine one_line_spaced (complete_quote hquoted) hpad' rfl (by decide) ?_
        htakes.one_line
      rw [compact_quote hquoted]
      exact newline_not_mem_quote hquoted
  · cases hgoes

theorem taken_number {depth : Nat} {cs rest : List Char} {numeral : Numeral}
    {n : Number} (hread : Numeral.read? cs = some (numeral, rest))
    (hn : numeral.number? = some n) :
    Taken (value? depth) cs (.number n) rest := by
  rcases Numeral.read?_eq_some hread with ⟨c, text, rfl, hparts, hreads⟩
  have hsolid := fun d hd => Numeral.solid_of_isPart (hparts d hd)
  refine ⟨c :: text, rfl, takes_of_solid ?_ hsolid⟩
  intro rest' hrest
  have hother : forall d, Numeral.isPart d = false -> c ≠ d := by
    rintro d hd rfl
    rw [hparts c List.mem_cons_self] at hd
    cases hd
  have hread' := hreads rest' hrest
  rw [List.cons_append] at hread' ⊢
  rw [value?, skipSpace_cons (hsolid c List.mem_cons_self).left]
  simp only [hother '"' rfl, hother '[' rfl, hother '\x7b' rfl, hother 'n' rfl,
    hother 't' rfl, hother 'f' rfl, if_false, hread']
  show Option.bind (Numeral.number? _) _ = _
  rw [hn]
  rfl

inductive ReadAs : Nat -> List Char -> Json -> List Char -> Prop
  | string {depth : Nat} {cs rest : List Char} {s : String}
      (read : string? cs = some (s, rest)) : ReadAs depth cs (.string s) rest
  | array {depth : Nat} {cs rest : List Char} {items : List Json}
      (read : items? (value? depth) ']' cs = some (items, rest)) :
      ReadAs (depth + 1) ('[' :: cs) (.array items) rest
  | object {depth : Nat} {cs rest : List Char} {members : List (String × Json)}
      (read : items? (member? (value? depth)) '\x7d' cs =
        some (members, rest)) :
      ReadAs (depth + 1) ('\x7b' :: cs) (.object members) rest
  | null {depth : Nat} (rest : List Char) :
      ReadAs depth (renderChars .null ++ rest) .null rest
  | bool {depth : Nat} (b : Bool) (rest : List Char) :
      ReadAs depth (renderChars (.bool b) ++ rest) (.bool b) rest
  | number {depth : Nat} {cs rest : List Char} {numeral : Numeral} {n : Number}
      (read : Numeral.read? cs = some (numeral, rest))
      (value : numeral.number? = some n) : ReadAs depth cs (.number n) rest

theorem readAs_of_value? {depth : Nat} {c : Char} (hspace : isSpace c = false)
    {cs rest : List Char} {json : Json}
    (h : value? depth (c :: cs) = some (json, rest)) :
    ReadAs depth (c :: cs) json rest := by
  rw [value?, skipSpace_cons hspace] at h
  dsimp only at h
  split at h
  · rcases Option.map_eq_some_iff.mp h with ⟨⟨s, left⟩, hread, heq⟩
    cases heq
    exact .string hread
  split at h
  · rename_i hbracket
    subst hbracket
    cases depth with
    | zero => cases h
    | succ depth =>
        rcases Option.map_eq_some_iff.mp h with ⟨⟨items, left⟩, hread, heq⟩
        cases heq
        exact .array hread
  split at h
  · rename_i hbrace
    subst hbrace
    cases depth with
    | zero => cases h
    | succ depth =>
        rcases Option.map_eq_some_iff.mp h with ⟨⟨members, left⟩, hread, heq⟩
        cases heq
        exact .object hread
  split at h
  · rcases literal?_eq_some h with ⟨htext, rfl⟩
    exact htext ▸ .null rest
  split at h
  · rcases literal?_eq_some h with ⟨htext, rfl⟩
    exact htext ▸ .bool true rest
  split at h
  · rcases literal?_eq_some h with ⟨htext, rfl⟩
    exact htext ▸ .bool false rest
  · rcases Option.bind_eq_some_iff.mp h with ⟨⟨numeral, left⟩, hread, hgoes⟩
    rcases Option.bind_eq_some_iff.mp hgoes with ⟨n, hn, heq⟩
    cases heq
    exact .number hread hn

/-- If the values of the level below are read locally, so is this one. -/
theorem taken_of_readAs {depth : Nat}
    (hbelow : forall below, depth = below + 1 -> Local (value? below))
    {cs rest : List Char} {json : Json} (h : ReadAs depth cs json rest) :
    Taken (value? depth) cs json rest := by
  cases h with
  | string hread => exact taken_string depth hread
  | array hread =>
      rcases items?_eq_some (hbelow _ rfl) (.inl rfl) hread with
        ⟨inner, rfl, htakes⟩
      exact ⟨_, rfl, takes_array htakes⟩
  | object hread =>
      rcases items?_eq_some (local_member? (hbelow _ rfl)) (.inr rfl) hread with
        ⟨inner, rfl, htakes⟩
      exact ⟨_, rfl, takes_object htakes⟩
  | null =>
      exact ⟨_, rfl,
        takes_of_solid (reads_null depth) (by simp [renderChars, isSpace])⟩
  | bool b =>
      refine ⟨_, rfl, takes_of_solid (reads_bool depth b) ?_⟩
      cases b
      · simp [renderChars, isSpace]
      · simp [renderChars, isSpace]
  | number hread hn => exact taken_number hread hn

theorem exists_readAs_of_value? {depth : Nat} {cs rest : List Char}
    {json : Json} (h : value? depth cs = some (json, rest)) :
    exists pad more, cs = pad ++ more ∧ Spaces pad ∧
      ReadAs depth more json rest := by
  rw [← value?_skipSpace] at h
  cases hskip : skipSpace cs with
  | nil =>
      rw [hskip, value?] at h
      cases h
  | cons c more =>
      rcases exists_of_skipSpace hskip with ⟨pad, hcs, hpad, hspace⟩
      rw [hskip] at h
      exact ⟨pad, c :: more, hcs, hpad, readAs_of_value? hspace h⟩

theorem local_of_below {depth : Nat}
    (hbelow : forall below, depth = below + 1 -> Local (value? below)) :
    Local (value? depth) := by
  intro cs json rest h
  rcases exists_readAs_of_value? h with ⟨pad, more, rfl, hpad, hread⟩
  rcases taken_of_readAs hbelow hread with ⟨text, rfl, htakes⟩
  exact ⟨pad ++ text, (List.append_assoc _ _ _).symm,
    takes_after_spaces (value?_skipSpace depth) hpad htakes⟩

theorem local_value? (depth : Nat) : Local (value? depth) := by
  induction depth with
  | zero =>
      refine local_of_below ?_
      intro below heq
      cases heq
  | succ depth ih =>
      refine local_of_below ?_
      intro below heq
      cases heq
      exact ih

theorem reads_two_items {depth : Nat} {first second : List Char} {x y : Json}
    (hbegins : Begins ']' first) (hx : Reads (value? depth) first x)
    (hy : Reads (value? depth) second y)
    {opening middle gap closing : List Char} (hopening : Spaces opening)
    (hmiddle : Spaces middle) (hgap : Spaces gap) (hclosing : Spaces closing) :
    Reads (value? (depth + 1))
      ('[' ::
        (opening ++
          (first ++
            (middle ++ ',' :: (gap ++ (second ++ (closing ++ [']'])))))))
      (.array [x, y]) := by
  rcases hbegins with ⟨c, more, rfl, hspace, hc⟩
  have hfirst := reads_after_spaces (value?_skipSpace depth) hopening hx
  have hsecond := reads_after_spaces (value?_skipSpace depth) hgap hy
  have hitems : Reads (items? (value? depth) ']')
      (opening ++ c ::
          (more ++ (middle ++ ',' :: (gap ++ (second ++ (closing ++ [']']))))))
        [x, y] := by
    refine items?_of_ne hopening hspace hc ?_ ?_
    · simp only [List.length_append, List.length_cons, List.length_nil]
      lia
    · intro fuel hfuel rest _
      rcases Nat.exists_eq_add_of_le' hfuel with ⟨extra, rfl⟩
      have htext :
          opening ++ c ::
            (more ++
              (middle ++ ',' :: (gap ++ (second ++ (closing ++ [']']))))) ++
            rest =
            opening ++ c :: more ++
              (middle ++ ',' ::
                (gap ++ second ++ (closing ++ ']' :: rest))) := by
        simp
      rw [htext]
      show sequence? (value? depth) ']' (extra + 1 + 1) _ = _
      rw [sequence?_of_comma hfirst hmiddle,
        sequence?_of_close (.inl rfl) hsecond hclosing]
      rfl
  intro rest hrest
  rw [List.cons_append, value?_bracket]
  exact congrArg (Option.map fun read => (Json.array read.1, read.2))
    (hitems rest hrest)

theorem exists_of_value?_array {depth : Nat} {cs rest : List Char}
    {items : List Json} (h : value? depth cs = some (.array items, rest)) :
    exists pad inner, cs = pad ++ ('[' :: (inner ++ [']']) ++ rest) ∧
      Spaces pad ∧
      Takes (value? depth) ('[' :: (inner ++ [']'])) (.array items) := by
  rcases exists_readAs_of_value? h with ⟨pad, more, rfl, hpad, hread⟩
  cases hread with
  | array hitems =>
      rcases items?_eq_some (local_value? _) (.inl rfl) hitems with
        ⟨inner, rfl, htakes⟩
      exact ⟨pad, inner, rfl, hpad, takes_array htakes⟩

/-!
## Whole texts
-/

theorem parseChars?_of_reads {text : List Char} {json : Json}
    (h : Reads (value? maxDepth) text json) {tail : List Char}
    (htail : Spaces tail) : parseChars? (text ++ tail) = some json.merge := by
  have hnil : skipSpace tail = [] := List.dropWhile_eq_nil_iff.mpr htail
  have hstops : Stops (tail ++ []) := stops_spaces_append htail trivial
  rw [List.append_nil] at hstops
  unfold parseChars? readChars?
  rw [h tail hstops]
  show Option.map merge (if (skipSpace tail).isEmpty then some json else none) =
      some json.merge
  rw [hnil]
  rfl

theorem exists_of_parseChars? {cs : List Char} {json : Json}
    (h : parseChars? cs = some json) :
    exists written rest, value? maxDepth cs = some (written, rest) ∧
      Spaces rest ∧
      written.merge = json := by
  rcases Option.map_eq_some_iff.mp h with ⟨written, hread, hmerge⟩
  rcases Option.bind_eq_some_iff.mp hread with ⟨⟨value, rest⟩, hvalue, hend⟩
  dsimp only at hend
  split at hend
  · rename_i hnil
    cases hend
    exact ⟨_, rest, hvalue,
      List.dropWhile_eq_nil_iff.mp (List.isEmpty_iff.mp hnil), hmerge⟩
  · cases hend

/-- The compact text has the value of the text, if it has one, and is one
line. -/
theorem parseChars?_compact {cs : List Char} {json : Json}
    (h : parseChars? cs = some json) :
    parseChars? (compact cs) = some json ∧ Not ('\n' ∈ compact cs) := by
  rcases exists_of_parseChars? h with ⟨written, tail, hvalue, htail, rfl⟩
  rcases local_value? maxDepth hvalue with ⟨text, rfl, htakes⟩
  have hback := parseChars?_of_reads htakes.reads_compact spaces_nil
  rw [compact_append htakes.complete, compact_of_spaces htail]
  refine ⟨hback, ?_⟩
  rw [List.append_nil]
  exact htakes.one_line

theorem spaces_of_parseChars?_append {first rest : List Char}
    {json json' : Json} (h : parseChars? (first ++ rest) = some json)
    (hfirst : parseChars? first = some json') (hstops : Stops rest) :
    Spaces rest := by
  rcases exists_of_parseChars? hfirst with ⟨written', tail, hread', htail, _⟩
  rcases local_value? maxDepth hread' with ⟨text, rfl, htakes⟩
  rcases exists_of_parseChars? h with ⟨written, left, hread, hleft, _⟩
  -- The value of the longer text is that of the shorter, with all that is left
  -- of it behind.
  rw [List.append_assoc,
    htakes.reads _ (stops_spaces_append htail hstops)] at hread
  cases hread
  exact fun c hc => hleft c (List.mem_append_right tail hc)

theorem exists_of_merge_eq_array {json : Json} {items : List Json}
    (h : json.merge = .array items) :
    exists written, json = .array written := by
  cases json with
  | array written => exact ⟨written, rfl⟩
  | null => cases h
  | bool b => cases h
  | number n => cases h
  | string s => cases h
  | object members => cases h

theorem exists_of_parseChars?_array {cs : List Char} {items : List Json}
    (h : parseChars? cs = some (.array items)) :
    exists pad inner tail, cs = pad ++ ('[' :: (inner ++ [']']) ++ tail) ∧
      Spaces pad ∧ Spaces tail ∧
      parseChars? ('[' :: (inner ++ [']'])) = some (.array items) := by
  rcases exists_of_parseChars? h with ⟨json, tail, hvalue, htail, hmerge⟩
  rcases exists_of_merge_eq_array hmerge with ⟨written, rfl⟩
  rcases exists_of_value?_array hvalue with ⟨pad, inner, rfl, hpad, htakes⟩
  have hback := parseChars?_of_reads htakes.reads spaces_nil
  rw [List.append_nil, hmerge] at hback
  exact ⟨pad, inner, tail, rfl, hpad, htail, hback⟩

end Json
end Reshape
