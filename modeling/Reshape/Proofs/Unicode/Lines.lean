import Mathlib.Data.List.TakeWhile
import Reshape.Unicode.Blank
import Reshape.Unicode.Split

/-!
# Joined pieces

Pieces that do not hold the separator are found again where they were joined.  A
text between two characters that are not blank stands as it is when it is
trimmed, whatever is between them, and loses the blanks after it.
-/

namespace Reshape
namespace Unicode

/-!
## Splitting
-/

section Splitting

variable {separator : Char}

theorem splitOn_of_not_mem {piece : List Char} (h : Not (separator ∈ piece)) :
    splitOn separator piece = [piece] := by
  induction piece with
  | nil => rfl
  | cons c rest ih =>
      have hne : c ≠ separator :=
        fun heq => h (List.mem_cons.mpr (.inl heq.symm))
      have hrest : Not (separator ∈ rest) :=
        fun hmem => h (List.mem_cons_of_mem c hmem)
      rw [splitOn, if_neg hne, ih hrest]

theorem splitOn_append {piece : List Char} (h : Not (separator ∈ piece))
    (rest : List Char) :
    splitOn separator (piece ++ separator :: rest) =
      piece :: splitOn separator rest := by
  induction piece with
  | nil => exact if_pos rfl
  | cons c piece ih =>
      have hne : c ≠ separator :=
        fun heq => h (List.mem_cons.mpr (.inl heq.symm))
      have hrest : Not (separator ∈ piece) :=
        fun hmem => h (List.mem_cons_of_mem c hmem)
      rw [List.cons_append, splitOn, if_neg hne, ih hrest]

theorem length_splitOn (separator : Char) (cs : List Char) :
    (splitOn separator cs).length = cs.count separator + 1 := by
  induction cs with
  | nil => rfl
  | cons c rest ih =>
      rw [splitOn]
      by_cases hc : c = separator
      · rw [if_pos hc, List.length_cons, ih, hc, List.count_cons_self]
      · rw [if_neg hc, List.count_cons_of_ne hc]
        cases hsplit : splitOn separator rest with
        | nil =>
            rw [hsplit] at ih
            exact absurd ih.symm (Nat.succ_ne_zero _)
        | cons piece pieces =>
            rw [hsplit] at ih
            exact ih

theorem splitOn_cons_of_ne {c : Char} {cs piece : List Char}
    {pieces : List (List Char)} (hc : c ≠ separator)
    (h : splitOn separator cs = piece :: pieces) :
    splitOn separator (c :: cs) = (c :: piece) :: pieces := by
  rw [splitOn, if_neg hc, h]

theorem exists_splitOn_eq_cons (separator : Char) (cs : List Char) :
    exists piece pieces, splitOn separator cs = piece :: pieces := by
  cases hsplit : splitOn separator cs with
  | nil =>
      have hlength := length_splitOn separator cs
      rw [hsplit] at hlength
      exact absurd hlength.symm (Nat.succ_ne_zero _)
  | cons piece pieces => exact ⟨piece, pieces, rfl⟩

theorem exists_splitOn_eq_concat (separator : Char) (cs : List Char) :
    exists pieces piece, splitOn separator cs = pieces ++ [piece] := by
  have hne : splitOn separator cs ≠ [] := by
    rcases exists_splitOn_eq_cons separator cs with ⟨piece, pieces, hsplit⟩
    rw [hsplit]
    exact List.cons_ne_nil piece pieces
  exact ⟨_, _, (List.dropLast_concat_getLast hne).symm⟩

theorem mem_of_mem_splitOn {cs piece : List Char}
    (hpiece : piece ∈ splitOn separator cs) {c : Char} (hc : c ∈ piece) :
    c ∈ cs := by
  induction cs generalizing piece with
  | nil =>
      rw [splitOn, List.mem_singleton] at hpiece
      rw [hpiece] at hc
      exact hc
  | cons head rest ih =>
      by_cases hhead : head = separator
      · rw [splitOn, if_pos hhead] at hpiece
        rcases List.mem_cons.mp hpiece with rfl | hlater
        · cases hc
        · exact List.mem_cons_of_mem head (ih hlater hc)
      · rcases exists_splitOn_eq_cons separator rest with ⟨first, more, hsplit⟩
        rw [splitOn_cons_of_ne hhead hsplit] at hpiece
        rw [hsplit] at ih
        rcases List.mem_cons.mp hpiece with rfl | hlater
        · rcases List.mem_cons.mp hc with rfl | hc
          · exact List.mem_cons_self
          · exact List.mem_cons_of_mem head (ih List.mem_cons_self hc)
        · exact List.mem_cons_of_mem head
            (ih (List.mem_cons_of_mem first hlater) hc)

theorem not_mem_of_mem_splitOn {cs piece : List Char}
    (hpiece : piece ∈ splitOn separator cs) : Not (separator ∈ piece) := by
  induction cs generalizing piece with
  | nil =>
      rw [splitOn, List.mem_singleton] at hpiece
      rw [hpiece]
      exact List.not_mem_nil
  | cons head rest ih =>
      by_cases hhead : head = separator
      · rw [splitOn, if_pos hhead] at hpiece
        rcases List.mem_cons.mp hpiece with rfl | hlater
        · exact List.not_mem_nil
        · exact ih hlater
      · rcases exists_splitOn_eq_cons separator rest with ⟨first, more, hsplit⟩
        rw [splitOn_cons_of_ne hhead hsplit] at hpiece
        rw [hsplit] at ih
        rcases List.mem_cons.mp hpiece with rfl | hlater
        · rw [List.mem_cons, not_or]
          exact ⟨Ne.symm hhead, ih List.mem_cons_self⟩
        · exact ih (List.mem_cons_of_mem first hlater)

theorem splitOn_append_of_eq {xs ys last first : List Char}
    {before after : List (List Char)}
    (hxs : splitOn separator xs = before ++ [last])
    (hys : splitOn separator ys = first :: after) :
    splitOn separator (xs ++ ys) = before ++ (last ++ first) :: after := by
  induction xs generalizing before last with
  | nil =>
      cases before with
      | nil =>
          injection hxs with hlast _
          rw [← hlast]
          exact hys
      | cons piece before =>
          injection hxs with _ hnil
          exact absurd hnil (by simp)
  | cons c xs ih =>
      by_cases hc : c = separator
      · rw [splitOn, if_pos hc] at hxs
        rw [List.cons_append, splitOn, if_pos hc]
        cases before with
        | nil =>
            injection hxs with _ hnil
            rcases exists_splitOn_eq_cons separator xs with
              ⟨piece, pieces, hpieces⟩
            rw [hpieces] at hnil
            cases hnil
        | cons piece before =>
            injection hxs with hpiece hrest
            rw [← hpiece, ih hrest]
            rfl
      · rcases exists_splitOn_eq_cons separator xs with ⟨piece, pieces, hpieces⟩
        rw [splitOn_cons_of_ne hc hpieces] at hxs
        cases before with
        | nil =>
            injection hxs with hlast hnil
            rw [hnil] at hpieces
            have hone : splitOn separator xs = [] ++ [piece] := hpieces
            rw [← hlast]
            exact splitOn_cons_of_ne hc (ih hone)
        | cons begun before =>
            injection hxs with hbegun hrest
            rw [hrest] at hpieces
            have hmore :
                splitOn separator xs = (piece :: before) ++ [last] := hpieces
            rw [← hbegun]
            exact splitOn_cons_of_ne hc (ih hmore)

theorem joinWith_cons_cons (separator : Char) (first second : List Char)
    (more : List (List Char)) :
    joinWith separator (first :: second :: more) =
      first ++ separator :: joinWith separator (second :: more) :=
  rfl

theorem splitOn_joinWith {first : List Char} {more : List (List Char)}
    (h : forall piece, piece ∈ first :: more -> Not (separator ∈ piece)) :
    splitOn separator (joinWith separator (first :: more)) = first :: more := by
  induction more generalizing first with
  | nil => exact splitOn_of_not_mem (h first List.mem_cons_self)
  | cons second more ih =>
      rw [joinWith_cons_cons, splitOn_append (h first List.mem_cons_self),
        ih fun piece hpiece => h piece (List.mem_cons_of_mem first hpiece)]

theorem joinWith_splitOn (separator : Char) (cs : List Char) :
    joinWith separator (splitOn separator cs) = cs := by
  induction cs with
  | nil => rfl
  | cons c rest ih =>
      rcases exists_splitOn_eq_cons separator rest with ⟨piece, pieces, hsplit⟩
      rw [hsplit] at ih
      by_cases hc : c = separator
      · rw [splitOn, if_pos hc, hsplit, joinWith_cons_cons, ih, hc,
          List.nil_append]
      · rw [splitOn_cons_of_ne hc hsplit]
        cases pieces with
        | nil => exact congrArg (c :: ·) ih
        | cons second more =>
            rw [joinWith_cons_cons, List.cons_append, ← joinWith_cons_cons, ih]

theorem joinWith_eq_intercalate (separator : Char) (pieces : List (List Char)) :
    joinWith separator pieces = [separator].intercalate pieces := by
  induction pieces with
  | nil => rfl
  | cons first rest ih =>
      cases rest with
      | nil => exact List.intercalate_singleton.symm
      | cons second more =>
          rw [joinWith_cons_cons, ih, List.intercalate_cons_cons]
          simp only [List.append_assoc, List.cons_append, List.nil_append]

/-- Pieces that each end with the separator are joined by it, and it stands once
more at the end. -/
theorem flatMap_terminated (separator : Char) (first : List Char)
    (more : List (List Char)) :
    ((first :: more).flatMap fun piece => piece ++ [separator]) =
      joinWith separator (first :: more) ++ [separator] := by
  induction more generalizing first with
  | nil => exact List.append_nil _
  | cons second more ih =>
      rw [List.flatMap_cons, ih second, joinWith_cons_cons]
      simp only [List.append_assoc, List.cons_append, List.nil_append]

end Splitting

/-!
## Trimming
-/

def Framed (cs : List Char) : Prop :=
  exists c inner d, cs = c :: (inner ++ [d]) ∧ isBlank c = false ∧
    isBlank d = false

theorem framed_of_ends {cs more inner : List Char} {c d : Char}
    (hhead : cs = c :: more) (hlast : cs = inner ++ [d]) (hmore : more ≠ [])
    (hc : isBlank c = false) (hd : isBlank d = false) : Framed cs := by
  rw [hlast] at hhead
  cases inner with
  | nil =>
      injection hhead with _ hnil
      exact absurd hnil.symm hmore
  | cons c' inner =>
      injection hhead with hsame _
      exact ⟨c, inner, d, by rw [hlast, hsame, List.cons_append], hc, hd⟩

def Blank (cs : List Char) : Prop :=
  forall c, c ∈ cs -> isBlank c = true

theorem blank_nil : Blank [] :=
  fun _ => nofun

theorem blank_append {first second : List Char} (hfirst : Blank first)
    (hsecond : Blank second) : Blank (first ++ second) :=
  fun c hc => (List.mem_append.mp hc).elim (hfirst c) (hsecond c)

theorem trim_of_blank {cs : List Char} (h : Blank cs) : trim cs = [] := by
  unfold trim trimStart
  rw [List.dropWhile_eq_nil_iff.mpr h]
  rfl

theorem head_dropWhile {p : Char -> Bool} {cs : List Char} {c : Char}
    (h : (cs.dropWhile p).head? = some c) : p c = false := by
  have hhead := List.head?_dropWhile_not p cs
  rw [h] at hhead
  exact hhead

theorem blank_of_trim_eq_nil {cs : List Char} (h : trim cs = []) :
    Blank cs := by
  unfold trim trimEnd at h
  have hstart : forall c, c ∈ trimStart cs -> isBlank c = true := by
    intro c hc
    exact List.dropWhile_eq_nil_iff.mp (List.reverse_eq_nil_iff.mp h) c
      (List.mem_reverse.mpr hc)
  -- What is left of the start begins with no blank, so nothing is left.
  have hnil : trimStart cs = [] := by
    cases hrest : trimStart cs with
    | nil => rfl
    | cons c rest =>
        rw [hrest] at hstart
        have hblank := hstart c List.mem_cons_self
        rw [head_dropWhile (congrArg List.head? hrest)] at hblank
        cases hblank
  exact List.dropWhile_eq_nil_iff.mp hnil

theorem trim_blank_append {pad : List Char} (h : Blank pad) (cs : List Char) :
    trim (pad ++ cs) = trim cs := by
  unfold trim trimStart
  rw [List.dropWhile_append_of_pos h]

theorem trimEnd_append_blank {pad : List Char} (h : Blank pad)
    (cs : List Char) : trimEnd (cs ++ pad) = trimEnd cs := by
  unfold trimEnd
  rw [List.reverse_append, List.dropWhile_append_of_pos]
  intro c hc
  exact h c (List.mem_reverse.mp hc)

theorem trim_append_of_blank {pad : List Char} (h : Blank pad)
    (cs : List Char) : trim (cs ++ pad) = trim cs := by
  unfold trim trimStart
  rw [List.dropWhile_append]
  split
  · rename_i hnil
    rw [List.dropWhile_eq_nil_iff.mpr h, List.isEmpty_iff.mp hnil]
  · exact trimEnd_append_blank h _

theorem exists_trimStart_eq (cs : List Char) :
    exists tail, trimStart cs = trim cs ++ tail ∧ Blank tail := by
  refine ⟨((trimStart cs).reverse.takeWhile isBlank).reverse, ?_, ?_⟩
  · unfold trim trimEnd
    rw [← List.reverse_append, List.takeWhile_append_dropWhile,
      List.reverse_reverse]
  · intro c hc
    exact List.mem_takeWhile_imp (List.mem_reverse.mp hc)

/-- Around what trimming leaves, the text has the blanks that it begins with and
blanks at its end. -/
theorem exists_around_trim (cs : List Char) :
    exists tail, cs = cs.takeWhile isBlank ++ (trim cs ++ tail) ∧
      Blank tail := by
  rcases exists_trimStart_eq cs with ⟨tail, hstart, htail⟩
  refine ⟨tail, ?_, htail⟩
  rw [← hstart]
  exact List.takeWhile_append_dropWhile.symm

theorem mem_of_mem_trim {cs : List Char} {c : Char} (h : c ∈ trim cs) :
    c ∈ cs := by
  rcases exists_around_trim cs with ⟨tail, hcs, _⟩
  rw [hcs]
  exact List.mem_append_right _ (List.mem_append_left _ h)

structure Bare (cs : List Char) : Prop where
  first : forall c, cs.head? = some c -> isBlank c = false
  last : forall c, cs.getLast? = some c -> isBlank c = false

theorem bare_trim (cs : List Char) : Bare (trim cs) where
  first c hc := by
    rcases exists_trimStart_eq cs with ⟨tail, hstart, _⟩
    have hhead : (trimStart cs).head? = some c := by
      rw [hstart, List.head?_append, hc]
      rfl
    exact head_dropWhile hhead
  last c hc := by
    unfold trim trimEnd at hc
    rw [List.getLast?_reverse] at hc
    exact head_dropWhile hc

theorem dropWhile_of_head {p : Char -> Bool} {cs : List Char}
    (h : forall c, cs.head? = some c -> p c = false) : cs.dropWhile p = cs := by
  cases cs with
  | nil => rfl
  | cons c rest =>
      rw [List.dropWhile_cons, h c rfl]
      rfl

theorem trim_of_bare {cs : List Char} (h : Bare cs) : trim cs = cs := by
  have hreverse : forall c, cs.reverse.head? = some c -> isBlank c = false := by
    intro c hc
    rw [List.head?_reverse] at hc
    exact h.last c hc
  unfold trim trimEnd trimStart
  rw [dropWhile_of_head h.first, dropWhile_of_head hreverse,
    List.reverse_reverse]

theorem trim_trim (cs : List Char) : trim (trim cs) = trim cs :=
  trim_of_bare (bare_trim cs)

theorem trim_around {before cs after : List Char} (hbefore : Blank before)
    (hcs : Framed cs) (hafter : Blank after) :
    trim (before ++ (cs ++ after)) = cs := by
  rcases hcs with ⟨c, inner, d, rfl, hc, hd⟩
  have hreversed : forall c, c ∈ after.reverse -> isBlank c = true :=
    fun c hmem => hafter c (List.mem_reverse.mp hmem)
  unfold trim trimEnd trimStart
  rw [List.dropWhile_append_of_pos hbefore, List.cons_append,
    List.dropWhile_cons, hc, if_neg (by decide), ← List.cons_append,
    List.reverse_append, List.dropWhile_append_of_pos hreversed]
  simp only [List.reverse_cons, List.reverse_append, List.reverse_nil,
    List.nil_append, List.cons_append, List.dropWhile_cons, hd,
    Bool.false_eq_true, if_false, List.reverse_reverse]

theorem trim_of_framed {cs : List Char} (h : Framed cs) : trim cs = cs := by
  have htrim : trim ([] ++ (cs ++ [])) = cs := trim_around blank_nil h blank_nil
  rw [List.append_nil] at htrim
  exact htrim

theorem trim_append_blank {cs : List Char} (h : Framed cs) {blank : Char}
    (hblank : isBlank blank = true) : trim (cs ++ [blank]) = cs := by
  refine trim_around blank_nil h ?_
  intro c hc
  rw [List.mem_singleton.mp hc]
  exact hblank

theorem trim_of_no_blank {cs : List Char}
    (h : forall c, c ∈ cs -> isBlank c = false) : trim cs = cs :=
  trim_of_bare
    ⟨fun c hc => h c (List.mem_of_head? hc),
      fun c hc => h c (List.mem_of_getLast? hc)⟩

theorem isBlank_of_range {c : Char} (h : 0x30 ≤ c.toNat ∧ c.toNat ≤ 0x7A) :
    isBlank c = false := by
  unfold isBlank
  rw [List.any_eq_false]
  intro range hrange
  simp only [blankRanges, List.mem_cons, List.not_mem_nil, or_false] at hrange
  rw [Bool.and_eq_true, decide_eq_true_eq, decide_eq_true_eq]
  rcases hrange with rfl | rfl | rfl | rfl | rfl | rfl | rfl | rfl | rfl | rfl
    <;> lia

theorem isBlank_of_isDigit {c : Char} (h : c.isDigit = true) :
    isBlank c = false := by
  have hrange := Char.isDigit_iff_toNat.mp h
  exact isBlank_of_range (by lia)

theorem framed_joinWith {separator : Char} {first : List Char}
    {more : List (List Char)}
    (h : forall piece, piece ∈ first :: more -> Framed piece) :
    Framed (joinWith separator (first :: more)) := by
  induction more generalizing first with
  | nil => exact h first List.mem_cons_self
  | cons second more ih =>
      rcases h first List.mem_cons_self with ⟨c, inner, d, hfirst, hc, _⟩
      rcases ih
        (fun piece hpiece => h piece (List.mem_cons_of_mem first hpiece)) with
        ⟨c', inner', d', hrest, _, hd'⟩
      refine ⟨c, inner ++ d :: separator :: c' :: inner', d', ?_, hc, hd'⟩
      rw [joinWith_cons_cons, hfirst, hrest]
      simp only [List.cons_append, List.append_assoc, List.nil_append]

end Unicode
end Reshape
