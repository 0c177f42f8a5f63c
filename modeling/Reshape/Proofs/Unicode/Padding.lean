import Reshape.Proofs.Unicode.Lines

/-!
# Texts on lines of their own

Each text stands on one line, with blanks around it, and between these lines
there may be blank ones.  Trimming the whole leaves the texts on their lines: it
takes off blank lines and blanks at both ends, but nothing of a text and no line
between two texts.
-/

namespace Reshape
namespace Unicode

def Pad (cs : List Char) : Prop :=
  Blank cs ∧ Not ('\n' ∈ cs)

/-- The texts stand on the lines, each on its own and in their order, and there
is nothing else. -/
inductive Padded : List (List Char) -> List (List Char) -> Prop
  | nil : Padded [] []
  | blank {texts lines : List (List Char)} {line : List Char} (pad : Pad line)
      (rest : Padded texts lines) : Padded texts (line :: lines)
  | text {texts lines : List (List Char)} {before after : List Char}
      (text : List Char) (before_pad : Pad before) (after_pad : Pad after)
      (rest : Padded texts lines) :
      Padded (text :: texts) ((before ++ (text ++ after)) :: lines)

theorem pad_nil : Pad [] :=
  ⟨blank_nil, List.not_mem_nil⟩

theorem pad_singleton {c : Char} (hblank : isBlank c = true) (hc : c ≠ '\n') :
    Pad [c] := by
  refine ⟨?_, by simpa using hc.symm⟩
  intro d hd
  rw [List.mem_singleton.mp hd]
  exact hblank

theorem padded_first (text : List Char) {texts lines : List (List Char)}
    {after : List Char} (hafter : Pad after) (rest : Padded texts lines) :
    Padded (text :: texts) ((text ++ after) :: lines) :=
  .text text pad_nil hafter rest

theorem blank_newline_cons {cs : List Char} (h : Blank cs) :
    Blank ('\n' :: cs) := by
  intro c hc
  rcases List.mem_cons.mp hc with rfl | hrest
  · rfl
  · exact h c hrest

theorem joinWith_cons (separator : Char) (line : List Char)
    {lines : List (List Char)} (h : lines ≠ []) :
    joinWith separator (line :: lines) =
      line ++ separator :: joinWith separator lines := by
  cases lines with
  | nil => exact absurd rfl h
  | cons second more => rfl

theorem ne_nil_of_padded {texts lines : List (List Char)}
    (h : Padded texts lines) (hsome : texts ≠ []) : lines ≠ [] := by
  cases h with
  | nil => exact absurd rfl hsome
  | blank pad rest => exact List.cons_ne_nil _ _
  | text text before_pad after_pad rest => exact List.cons_ne_nil _ _

theorem newline_not_mem_of_padded {texts lines : List (List Char)}
    (h : Padded texts lines)
    (htexts : forall text, text ∈ texts -> Not ('\n' ∈ text)) :
    forall line, line ∈ lines -> Not ('\n' ∈ line) := by
  induction h with
  | nil =>
      intro line hline
      cases hline
  | blank pad rest ih =>
      intro line hline
      rcases List.mem_cons.mp hline with rfl | hrest
      · exact pad.right
      · exact ih htexts line hrest
  | text text before_pad after_pad rest ih =>
      intro line hline
      rcases List.mem_cons.mp hline with rfl | hrest
      · simp only [List.mem_append, not_or]
        exact ⟨before_pad.right, htexts text List.mem_cons_self,
          after_pad.right⟩
      · exact ih
          (fun other hother => htexts other (List.mem_cons_of_mem text hother))
          line hrest

theorem mem_joinWith_of_padded {texts lines : List (List Char)}
    (h : Padded texts lines) {text : List Char} (htext : text ∈ texts)
    {c : Char} (hc : c ∈ text) : c ∈ joinWith '\n' lines := by
  induction h with
  | nil => cases htext
  | @blank texts lines line pad rest ih =>
      rw [joinWith_cons _ _ (ne_nil_of_padded rest (List.ne_nil_of_mem htext))]
      exact List.mem_append_right _ (List.mem_cons_of_mem _ (ih htext))
  | @text texts lines before after first before_pad after_pad rest ih =>
      rcases List.mem_cons.mp htext with rfl | hmore
      · have hline : c ∈ before ++ (text ++ after) :=
          List.mem_append_right _ (List.mem_append_left _ hc)
        cases lines with
        | nil => exact hline
        | cons second more => exact List.mem_append_left _ hline
      · rw [joinWith_cons _ _
          (ne_nil_of_padded rest (List.ne_nil_of_mem hmore))]
        exact List.mem_append_right _ (List.mem_cons_of_mem _ (ih hmore))

/-!
## Blank ends
-/

theorem blank_joinWith {lines : List (List Char)} (h : Padded [] lines) :
    Blank (joinWith '\n' lines) := by
  induction lines with
  | nil => exact blank_nil
  | cons line lines ih =>
      cases h with
      | blank pad rest =>
          cases lines with
          | nil => exact pad.left
          | cons second more =>
              exact blank_append pad.left (blank_newline_cons (ih rest))

theorem exists_blank_tail {lines : List (List Char)} (h : Padded [] lines)
    (line : List Char) :
    exists tail, joinWith '\n' (line :: lines) = line ++ tail ∧ Blank tail := by
  cases lines with
  | nil => exact ⟨[], (List.append_nil line).symm, blank_nil⟩
  | cons second more =>
      exact ⟨'\n' :: joinWith '\n' (second :: more), rfl,
        blank_newline_cons (blank_joinWith h)⟩

theorem exists_blank_head {first : List Char} {texts lines : List (List Char)}
    (h : Padded (first :: texts) lines) :
    exists before after more,
      joinWith '\n' lines = before ++ joinWith '\n' ((first ++ after) :: more) ∧
      Blank before ∧ Pad after ∧ Padded texts more := by
  generalize htexts : first :: texts = all at h
  induction h with
  | nil => cases htexts
  | @blank all lines line pad rest ih =>
      rcases ih htexts with
        ⟨before, after, more, hjoined, hbefore, hafter, hmore⟩
      subst htexts
      refine ⟨line ++ '\n' :: before, after, more, ?_,
        blank_append pad.left (blank_newline_cons hbefore), hafter, hmore⟩
      rw [joinWith_cons _ _ (ne_nil_of_padded rest (List.cons_ne_nil _ _)),
        hjoined, List.append_assoc, List.cons_append]
  | @text all lines before after text before_pad after_pad rest ih =>
      injection htexts with hfirst htexts
      subst hfirst htexts
      refine ⟨before, after, lines, ?_, before_pad.left, after_pad, rest⟩
      cases lines with
      | nil => rfl
      | cons second more => exact List.append_assoc _ _ _

/-- The same texts on lines that end with the last character of the last
text. -/
structure Ended (texts lines ending : List (List Char)) : Prop where
  tail : exists tail, joinWith '\n' lines = joinWith '\n' ending ++ tail ∧
    Blank tail
  padded : Padded texts ending
  last : exists inner d, joinWith '\n' ending = inner ++ [d] ∧ isBlank d = false

theorem ended_cons {others texts lines ending : List (List Char)}
    {line : List Char} (h : Ended others lines ending)
    (hlines : Padded others lines) (hsome : others ≠ [])
    (hpadded : Padded texts (line :: ending)) :
    Ended texts (line :: lines) (line :: ending) where
  tail := by
    rcases h.tail with ⟨tail, hjoined, htail⟩
    refine ⟨tail, ?_, htail⟩
    rw [joinWith_cons _ _ (ne_nil_of_padded hlines hsome),
      joinWith_cons _ _ (ne_nil_of_padded h.padded hsome), hjoined,
      List.append_assoc, List.cons_append]
  padded := hpadded
  last := by
    rcases h.last with ⟨inner, d, hjoined, hd⟩
    refine ⟨line ++ '\n' :: inner, d, ?_, hd⟩
    rw [joinWith_cons _ _ (ne_nil_of_padded h.padded hsome), hjoined,
      List.append_assoc, List.cons_append]

theorem exists_ended {texts lines : List (List Char)} (h : Padded texts lines)
    (hsome : texts ≠ []) (hframed : forall text, text ∈ texts -> Framed text) :
    exists ending, Ended texts lines ending := by
  induction h with
  | nil => exact absurd rfl hsome
  | @blank texts lines line pad rest ih =>
      rcases ih hsome hframed with ⟨ending, hended⟩
      exact ⟨line :: ending,
        ended_cons hended rest hsome (.blank pad hended.padded)⟩
  | @text texts lines before after text before_pad after_pad rest ih =>
      cases texts with
      | nil =>
          rcases exists_blank_tail rest (before ++ (text ++ after)) with
            ⟨tail, hjoined, htail⟩
          rcases hframed text List.mem_cons_self with
            ⟨c, inner, d, htext, _, hd⟩
          refine ⟨[before ++ (text ++ [])],
            ⟨after ++ tail, ?_, blank_append after_pad.left htail⟩,
            .text text before_pad pad_nil .nil,
            ⟨before ++ c :: inner, d, ?_, hd⟩⟩
          · rw [hjoined]
            simp [joinWith]
          · simp [joinWith, htext]
      | cons first more =>
          have hmore : forall other, other ∈ first :: more -> Framed other :=
            fun other hother => hframed other (List.mem_cons_of_mem text hother)
          have hsome := List.cons_ne_nil first more
          rcases ih hsome hmore with ⟨ending, hended⟩
          exact ⟨(before ++ (text ++ after)) :: ending,
            ended_cons hended rest hsome
              (.text text before_pad after_pad hended.padded)⟩

/-!
## Trimming the whole
-/

theorem trim_nothing {lines : List (List Char)} (h : Padded [] lines) :
    trim (joinWith '\n' lines) = [] :=
  trim_of_blank (blank_joinWith h)

theorem trim_one {text : List Char} {lines : List (List Char)}
    (h : Padded [text] lines) (hframed : Framed text) :
    trim (joinWith '\n' lines) = text := by
  rcases exists_blank_head h with
    ⟨before, after, more, hjoined, hbefore, hafter, hmore⟩
  rcases exists_blank_tail hmore (text ++ after) with ⟨tail, hline, htail⟩
  rw [hjoined, hline, List.append_assoc]
  exact trim_around hbefore hframed (blank_append hafter.left htail)

/-- With two texts or more, the first one is followed by the end of its line and
by the others. -/
theorem trim_several {first second : List Char} {more lines : List (List Char)}
    (h : Padded (first :: second :: more) lines)
    (hframed : forall text, text ∈ first :: second :: more -> Framed text) :
    exists after ending, Pad after ∧ Padded (second :: more) ending ∧
      trim (joinWith '\n' lines) =
        joinWith '\n' ((first ++ after) :: ending) := by
  rcases exists_blank_head h with
    ⟨before, after, others, hjoined, hbefore, hafter, hothers⟩
  have hlater : forall text, text ∈ second :: more -> Framed text :=
    fun text htext => hframed text (List.mem_cons_of_mem first htext)
  have hsome := List.cons_ne_nil second more
  rcases exists_ended hothers hsome hlater with ⟨ending, hended⟩
  have hall :=
    ended_cons hended hothers hsome (padded_first first hafter hended.padded)
  rcases hall.tail with ⟨tail, hwhole, htail⟩
  rcases hall.last with ⟨inner, d, hlast, hd⟩
  refine ⟨after, ending, hafter, hended.padded, ?_⟩
  rw [hjoined, hwhole]
  apply trim_around hbefore _ htail
  rcases hframed first List.mem_cons_self with ⟨c, begun, d', hfirst, hc, _⟩
  have hhead : joinWith '\n' ((first ++ after) :: ending) =
      c :: (begun ++ ([d'] ++ (after ++ '\n' :: joinWith '\n' ending))) := by
    rw [joinWith_cons _ _ (ne_nil_of_padded hended.padded hsome), hfirst]
    simp only [List.cons_append, List.append_assoc]
  exact framed_of_ends hhead hlast (by simp) hc hd

end Unicode
end Reshape
