import Reshape.Proofs.Json.Tokens

/-!
# Spaces in lists

A reader that takes some text for a value takes the same text for it in front of
anything else, and it takes the compact text as well.  If this holds of the
reader of an item, it holds of the reader of a list, by induction on the items.
-/

namespace Reshape
namespace Json

/-- The reader takes exactly this text for the value, and exactly the compact
text too, which is one line. -/
structure Takes {α : Type} (read? : List Char -> Option (α × List Char))
    (text : List Char) (a : α) : Prop where
  reads : Reads read? text a
  reads_compact : Reads read? (compact text) a
  complete : Complete text
  one_line : Not ('\n' ∈ compact text)

def Taken {α : Type} (read? : List Char -> Option (α × List Char))
    (cs : List Char) (a : α) (rest : List Char) : Prop :=
  exists text, cs = text ++ rest ∧ Takes read? text a

/-- Whatever is read has a text of its own, on which alone it depends. -/
def Local {α : Type} (read? : List Char -> Option (α × List Char)) : Prop :=
  forall {cs : List Char} {a : α} {rest : List Char},
    read? cs = some (a, rest) ->
    Taken read? cs a rest

section Taking

variable {α : Type} {read? : List Char -> Option (α × List Char)}
  {text : List Char} {a : α}

theorem takes_of_solid (hreads : Reads read? text a)
    (h : forall c, c ∈ text -> isSpace c = false ∧ c ≠ '"') :
    Takes read? text a where
  reads := hreads
  reads_compact := by rw [compact_of_solid h]; exact hreads
  complete := complete_of_not_mem fun hmem => (h '"' hmem).right rfl
  one_line := fun hmem => by
    have hspace := (h '\n' (mem_of_mem_compactFrom hmem)).left
    cases hspace

theorem reads_after_spaces (hskip : forall cs, read? (skipSpace cs) = read? cs)
    {pad : List Char} (hpad : Spaces pad) (h : Reads read? text a) :
    Reads read? (pad ++ text) a := by
  intro rest hrest
  rw [← hskip, List.append_assoc, skipSpace_spaces_append hpad, hskip,
    h rest hrest]

theorem takes_after_spaces (hskip : forall cs, read? (skipSpace cs) = read? cs)
    {pad : List Char} (hpad : Spaces pad) (h : Takes read? text a) :
    Takes read? (pad ++ text) a where
  reads := reads_after_spaces hskip hpad h.reads
  reads_compact := by rw [compact_spaces_append hpad]; exact h.reads_compact
  complete := complete_append (complete_of_spaces hpad) h.complete
  one_line := by rw [compact_spaces_append hpad]; exact h.one_line

end Taking

/-!
## Lists
-/

section Lists

variable {α : Type} {read? : List Char -> Option (α × List Char)} {close : Char}
  {text : List Char} {a : α}

theorem compact_close (h : Closes close) : compact [close] = [close] :=
  compact_cons h.solid.left h.solid.right.right.left []

theorem complete_close (h : Closes close) : Complete [close] :=
  complete_cons h.solid.right.right.left rfl

theorem sequence?_of_comma (hread : Reads read? text a) {pad : List Char}
    (hpad : Spaces pad) (fuel : Nat) (rest : List Char) :
    sequence? read? close (fuel + 1) (text ++ (pad ++ ',' :: rest)) =
      (sequence? read? close fuel rest).map
        fun read => (a :: read.1, read.2) := by
  have hstops : Stops (',' :: rest) := rfl
  rw [sequence?_of_read (hread _ (stops_spaces_append hpad hstops))
    (skipSpace_front hpad rfl rest)]
  exact if_pos rfl

theorem sequence?_of_close (hclose : Closes close) (hread : Reads read? text a)
    {pad : List Char} (hpad : Spaces pad) (fuel : Nat) (rest : List Char) :
    sequence? read? close (fuel + 1) (text ++ (pad ++ close :: rest)) =
      some ([a], rest) := by
  rcases hclose.solid with ⟨hspace, hextends, _, hcomma⟩
  have hstops : Stops (close :: rest) := hextends
  rw [sequence?_of_read (hread _ (stops_spaces_append hpad hstops))
      (skipSpace_front hpad hspace rest),
    if_neg hcomma, if_pos rfl]

theorem compact_spaced (htext : Complete text) {pad : List Char}
    (hpad : Spaces pad) {c : Char} (hspace : isSpace c = false)
    (hquote : c ≠ '"') (rest : List Char) :
    compact (text ++ (pad ++ c :: rest)) =
      compact text ++ c :: compact rest := by
  rw [compact_append htext, compact_spaces_append hpad,
    compact_cons hspace hquote]

theorem complete_spaced (htext : Complete text) {pad : List Char}
    (hpad : Spaces pad) {c : Char} (hquote : c ≠ '"') {rest : List Char}
    (hrest : Complete rest) : Complete (text ++ (pad ++ c :: rest)) :=
  complete_append htext
    (complete_append (complete_of_spaces hpad) (complete_cons hquote hrest))

theorem one_line_spaced (htext : Complete text) {pad : List Char}
    (hpad : Spaces pad) {c : Char} (hspace : isSpace c = false)
    (hquote : c ≠ '"') {rest : List Char} (hfirst : Not ('\n' ∈ compact text))
    (hsecond : Not ('\n' ∈ compact rest)) :
    Not ('\n' ∈ compact (text ++ (pad ++ c :: rest))) := by
  rw [compact_spaced htext hpad hspace hquote]
  intro hmem
  rcases List.mem_append.mp hmem with hmem | hmem
  · exact hfirst hmem
  · rcases List.mem_cons.mp hmem with rfl | hmem
    · cases hspace
    · exact hsecond hmem

theorem takes_comma (h : Takes read? text a) {pad : List Char}
    (hpad : Spaces pad) {fuel : Nat} {others : List Char} {items : List α}
    (hothers : Takes (sequence? read? close fuel) others items) :
    Takes (sequence? read? close (fuel + 1)) (text ++ (pad ++ ',' :: others))
      (a :: items) := by
  have hcompact :=
    compact_spaced h.complete hpad (c := ',') rfl (by decide) others
  refine ⟨?_, ?_, complete_spaced h.complete hpad (by decide) hothers.complete,
    one_line_spaced h.complete hpad rfl (by decide) h.one_line hothers.one_line⟩
  · intro rest hrest
    have htext : text ++ (pad ++ ',' :: others) ++ rest =
        text ++ (pad ++ ',' :: (others ++ rest)) := by
      simp
    rw [htext, sequence?_of_comma h.reads hpad, hothers.reads rest hrest]
    rfl
  · intro rest hrest
    have htext : compact text ++ ',' :: compact others ++ rest =
        compact text ++ ([] ++ ',' :: (compact others ++ rest)) := by simp
    rw [hcompact, htext, sequence?_of_comma h.reads_compact spaces_nil,
      hothers.reads_compact rest hrest]
    rfl

theorem takes_close (hclose : Closes close) (h : Takes read? text a)
    {pad : List Char} (hpad : Spaces pad) (fuel : Nat) :
    Takes (sequence? read? close (fuel + 1)) (text ++ (pad ++ [close]))
      [a] := by
  rcases hclose.solid with ⟨hspace, _, hquote, _⟩
  have hcompact :
      compact (text ++ (pad ++ [close])) = compact text ++ [close] :=
    compact_spaced h.complete hpad hspace hquote []
  refine ⟨?_, ?_, complete_spaced h.complete hpad hquote rfl,
    one_line_spaced h.complete hpad hspace hquote h.one_line List.not_mem_nil⟩
  · intro rest _
    have htext :
        text ++ (pad ++ [close]) ++ rest = text ++ (pad ++ close :: rest) := by
      simp
    rw [htext, sequence?_of_close hclose h.reads hpad]
  · intro rest _
    have htext : compact text ++ [close] ++ rest =
        compact text ++ ([] ++ close :: rest) := by
      simp
    rw [hcompact, htext, sequence?_of_close hclose h.reads_compact spaces_nil]

theorem sequence?_eq_some (hlocal : Local read?) (hclose : Closes close)
    {fuel : Nat} {cs rest : List Char} {items : List α}
    (h : sequence? read? close fuel cs = some (items, rest)) :
    exists inner, cs = inner ++ [close] ++ rest ∧
      items.length ≤ (compact (inner ++ [close])).length ∧
      forall fuel', items.length ≤ fuel' ->
        Takes (sequence? read? close fuel') (inner ++ [close]) items := by
  induction fuel generalizing cs items with
  | zero => cases h
  | succ fuel ih =>
      rcases Option.bind_eq_some_iff.mp h with ⟨⟨a, left⟩, hread, hgoes⟩
      rcases hlocal hread with ⟨text, rfl, htakes⟩
      cases hskip : skipSpace left with
      | nil =>
          simp only [hskip] at hgoes
          cases hgoes
      | cons c more =>
          rw [sequence?_of_read hread hskip] at h
          rcases exists_of_skipSpace hskip with ⟨pad, rfl, hpad, hspace⟩
          split at h
          · rename_i hcomma
            rcases Option.map_eq_some_iff.mp h with ⟨⟨others, left⟩, hmore, heq⟩
            cases heq
            rcases ih hmore with ⟨inner, rfl, hlength, hothers⟩
            have htext : text ++ (pad ++ c :: inner) ++ [close] =
                text ++ (pad ++ c :: (inner ++ [close])) := by simp
            refine ⟨text ++ (pad ++ c :: inner), by simp, ?_, ?_⟩
            · rw [htext, hcomma,
                compact_spaced htakes.complete hpad rfl (by decide),
                List.length_append, List.length_cons, List.length_cons]
              lia
            · intro fuel' hfuel
              rw [htext, hcomma]
              cases fuel' with
              | zero => exact absurd hfuel (Nat.not_succ_le_zero _)
              | succ fuel' =>
                  exact takes_comma htakes hpad
                    (hothers fuel' (Nat.le_of_succ_le_succ hfuel))
          · split at h
            · rename_i hc
              cases h
              have htext : text ++ pad ++ [close] = text ++ (pad ++ [close]) :=
                List.append_assoc _ _ _
              refine ⟨text ++ pad, by simp [hc], ?_, ?_⟩
              · rw [htext, compact_spaced htakes.complete hpad hclose.solid.left
                  hclose.solid.right.right.left, List.length_append]
                exact Nat.le_add_left _ _
              · intro fuel' hfuel
                rw [htext]
                cases fuel' with
                | zero => exact absurd hfuel (Nat.not_succ_le_zero _)
                | succ fuel' => exact takes_close hclose htakes hpad fuel'
            · cases h

theorem items?_of_close (hclose : Closes close) {pad : List Char}
    (hpad : Spaces pad) (rest : List Char) :
    items? read? close (pad ++ close :: rest) = some ([], rest) := by
  rw [items?, skipSpace_front hpad hclose.solid.left]
  exact if_pos rfl

theorem items?_of_ne {pad : List Char} (hpad : Spaces pad) {c : Char}
    (hspace : isSpace c = false) (hc : c ≠ close) {more : List Char}
    {items : List α} (hlength : items.length ≤ (pad ++ c :: more).length)
    (h :
      forall fuel, items.length ≤ fuel ->
        Reads (sequence? read? close fuel) (pad ++ c :: more) items) :
    Reads (items? read? close) (pad ++ c :: more) items := by
  intro rest hrest
  have hfuel : items.length ≤ (pad ++ c :: more ++ rest).length := by
    rw [List.length_append]
    exact Nat.le_add_right_of_le hlength
  have hreads := h _ hfuel rest hrest
  rw [List.append_assoc, List.cons_append] at hreads ⊢
  rw [items?, skipSpace_front hpad hspace]
  exact (if_neg hc).trans hreads

theorem takes_nothing (hclose : Closes close) {pad : List Char}
    (hpad : Spaces pad) : Takes (items? read? close) (pad ++ [close]) [] := by
  have hcompact : compact (pad ++ [close]) = [close] := by
    rw [compact_spaces_append hpad, compact_close hclose]
  refine ⟨?_, ?_,
    complete_append (complete_of_spaces hpad) (complete_close hclose), ?_⟩
  · intro rest _
    rw [List.append_assoc]
    exact items?_of_close hclose hpad rest
  · intro rest _
    rw [hcompact]
    exact items?_of_close hclose spaces_nil rest
  · rw [hcompact]
    intro hmem
    have hspace := hclose.solid.left
    rw [← List.mem_singleton.mp hmem] at hspace
    cases hspace

theorem takes_some {pad : List Char} (hpad : Spaces pad) {c : Char}
    (hspace : isSpace c = false) (hc : c ≠ close) {more : List Char}
    {items : List α}
    (hlength : items.length ≤ (compact (pad ++ c :: more)).length)
    (h :
      forall fuel, items.length ≤ fuel ->
        Takes (sequence? read? close fuel) (pad ++ c :: more) items) :
    Takes (items? read? close) (pad ++ c :: more) items := by
  have hany := h items.length (Nat.le_refl _)
  have hcompact : compact (pad ++ c :: more) =
      [] ++ c :: compactFrom (Place.next .outside c) more := by
    rw [compact_spaces_append hpad]
    exact compactFrom_cons hspace .outside more
  refine ⟨?_, ?_, hany.complete, hany.one_line⟩
  · have hlonger :=
      Nat.le_trans hlength (length_compactFrom_le .outside (pad ++ c :: more))
    exact items?_of_ne hpad hspace hc hlonger
      fun fuel hfuel => (h fuel hfuel).reads
  · rw [hcompact] at hlength ⊢
    refine items?_of_ne spaces_nil hspace hc hlength ?_
    intro fuel hfuel
    rw [← hcompact]
    exact (h fuel hfuel).reads_compact

theorem exists_front (hclose : isSpace close = false) {pad : List Char}
    (hpad : Spaces pad) {c : Char} {more inner rest : List Char}
    (h : pad ++ c :: more = inner ++ [close] ++ rest) :
    exists others, inner ++ [close] = pad ++ c :: others := by
  have hmem : close ∈ inner ++ [close] :=
    List.mem_append_right inner List.mem_cons_self
  have hnot : Not (close ∈ pad) := by
    intro hpadded
    rw [hpad close hpadded] at hclose
    cases hclose
  rcases List.append_eq_append_iff.mp h with
    ⟨others, htext, hmore⟩ | ⟨others, htext, _⟩
  · cases others with
    | nil =>
        rw [htext, List.append_nil] at hmem
        exact absurd hmem hnot
    | cons d others =>
        injection hmore with hd _
        exact ⟨others, hd ▸ htext⟩
  · rw [htext] at hnot
    exact absurd (List.mem_append_left others hmem) hnot

theorem items?_eq_some (hlocal : Local read?) (hclose : Closes close)
    {cs rest : List Char} {items : List α}
    (h : items? read? close cs = some (items, rest)) :
    exists inner, cs = inner ++ [close] ++ rest ∧
      Takes (items? read? close) (inner ++ [close]) items := by
  unfold items? at h
  split at h
  · cases h
  · rename_i c more hskip
    rcases exists_of_skipSpace hskip with ⟨pad, rfl, hpad, hspace⟩
    split at h
    · rename_i hc
      cases h
      exact ⟨pad, by simp [hc], takes_nothing hclose hpad⟩
    · rename_i hc
      rcases sequence?_eq_some hlocal hclose h with
        ⟨inner, htext, hlength, htakes⟩
      rcases exists_front hclose.solid.left hpad htext with ⟨others, hfront⟩
      refine ⟨inner, htext, ?_⟩
      rw [hfront] at hlength htakes ⊢
      exact takes_some hpad hspace hc hlength htakes

end Lists

end Json
end Reshape
