import Reshape.Json.Reader

/-!
# Compact texts

The spaces between the tokens of a JSON text can be left out, those in its
strings cannot.  To tell them apart it is enough to follow the quotes and the
backslashes of the text.
-/

namespace Reshape
namespace Json

inductive Place where
  | outside
  | string
  | escape
  deriving DecidableEq

namespace Place

def next : Place -> Char -> Place
  | .outside, c => if c = '"' then .string else .outside
  | .string, c =>
      if c = '"' then .outside else if c = '\\' then .escape else .string
  | .escape, _ => .string

def after (place : Place) (cs : List Char) : Place :=
  cs.foldl next place

end Place

/-- The text that goes on at some place, without the spaces outside of
strings. -/
def compactFrom (place : Place) : List Char -> List Char
  | [] => []
  | c :: rest =>
      if place = .outside ∧ isSpace c = true then compactFrom .outside rest
      else c :: compactFrom (place.next c) rest

def compact (cs : List Char) : List Char :=
  compactFrom .outside cs

def Complete (cs : List Char) : Prop :=
  Place.outside.after cs = .outside

def Spaces (cs : List Char) : Prop :=
  forall c, c ∈ cs -> isSpace c = true

/-!
## Places
-/

namespace Place

theorem after_cons (place : Place) (c : Char) (cs : List Char) :
    place.after (c :: cs) = (place.next c).after cs :=
  rfl

theorem after_append (place : Place) (first second : List Char) :
    place.after (first ++ second) = (place.after first).after second :=
  List.foldl_append

theorem next_outside {c : Char} (h : c ≠ '"') : next .outside c = .outside :=
  if_neg h

theorem next_string {c : Char} (hquote : c ≠ '"') (hbackslash : c ≠ '\\') :
    next .string c = .string := by
  rw [next, if_neg hquote, if_neg hbackslash]

end Place

theorem ne_quote_of_isSpace {c : Char} (h : isSpace c = true) : c ≠ '"' := by
  rintro rfl
  cases h

theorem compactFrom_cons {c : Char} (h : isSpace c = false) (place : Place)
    (rest : List Char) :
    compactFrom place (c :: rest) = c :: compactFrom (place.next c) rest := by
  refine if_neg ?_
  rintro ⟨_, hspace⟩
  rw [h] at hspace
  cases hspace

theorem compactFrom_cons_of_ne {place : Place} (h : place ≠ .outside) (c : Char)
    (rest : List Char) :
    compactFrom place (c :: rest) = c :: compactFrom (place.next c) rest :=
  if_neg fun hspace => h hspace.left

theorem compactFrom_append (place : Place) (first second : List Char) :
    compactFrom place (first ++ second) =
      compactFrom place first ++ compactFrom (place.after first) second := by
  induction first generalizing place with
  | nil => rfl
  | cons c first ih =>
      rw [List.cons_append, compactFrom, compactFrom, Place.after_cons]
      split
      · rename_i hspace
        rw [ih, hspace.left,
          Place.next_outside (ne_quote_of_isSpace hspace.right)]
      · rw [ih, List.cons_append]

theorem mem_of_mem_compactFrom {place : Place} {c : Char} {cs : List Char}
    (h : c ∈ compactFrom place cs) : c ∈ cs := by
  induction cs generalizing place with
  | nil => exact h
  | cons d cs ih =>
      rw [compactFrom] at h
      split at h
      · exact List.mem_cons_of_mem d (ih h)
      · rcases List.mem_cons.mp h with rfl | h
        · exact List.mem_cons_self
        · exact List.mem_cons_of_mem d (ih h)

theorem length_compactFrom_le (place : Place) (cs : List Char) :
    (compactFrom place cs).length ≤ cs.length := by
  induction cs generalizing place with
  | nil => exact Nat.le_refl 0
  | cons c cs ih =>
      rw [compactFrom]
      split
      · exact Nat.le_succ_of_le (ih .outside)
      · exact Nat.succ_le_succ (ih _)

/-!
## Texts put together
-/

theorem compact_cons {c : Char} (hspace : isSpace c = false) (hquote : c ≠ '"')
    (rest : List Char) : compact (c :: rest) = c :: compact rest := by
  unfold compact
  rw [compactFrom_cons hspace, Place.next_outside hquote]

theorem compact_append {cs : List Char} (h : Complete cs) (rest : List Char) :
    compact (cs ++ rest) = compact cs ++ compact rest := by
  unfold compact
  rw [compactFrom_append, h]

theorem complete_append {first second : List Char} (hfirst : Complete first)
    (hsecond : Complete second) : Complete (first ++ second) := by
  unfold Complete
  rw [Place.after_append, hfirst, hsecond]

theorem complete_cons {c : Char} {rest : List Char} (hc : c ≠ '"')
    (h : Complete rest) : Complete (c :: rest) := by
  unfold Complete
  rw [Place.after_cons, Place.next_outside hc, h]

theorem complete_of_not_mem {cs : List Char} (h : Not ('"' ∈ cs)) :
    Complete cs := by
  induction cs with
  | nil => rfl
  | cons c cs ih =>
      have hc : c ≠ '"' := (List.ne_of_not_mem_cons h).symm
      exact complete_cons hc (ih (List.not_mem_of_not_mem_cons h))

theorem complete_of_spaces {cs : List Char} (h : Spaces cs) : Complete cs :=
  complete_of_not_mem fun hquote => ne_quote_of_isSpace (h '"' hquote) rfl

theorem compact_of_spaces {cs : List Char} (h : Spaces cs) :
    compact cs = [] := by
  induction cs with
  | nil => rfl
  | cons c cs ih =>
      refine (if_pos ⟨rfl, h c List.mem_cons_self⟩).trans ?_
      exact ih fun d hd => h d (List.mem_cons_of_mem c hd)

theorem compact_spaces_append {pad : List Char} (h : Spaces pad)
    (rest : List Char) : compact (pad ++ rest) = compact rest := by
  rw [compact_append (complete_of_spaces h), compact_of_spaces h,
    List.nil_append]

theorem compact_of_solid {cs : List Char}
    (h : forall c, c ∈ cs -> isSpace c = false ∧ c ≠ '"') :
    compact cs = cs := by
  induction cs with
  | nil => rfl
  | cons c cs ih =>
      rcases h c List.mem_cons_self with ⟨hspace, hquote⟩
      rw [compact_cons hspace hquote,
        ih fun d hd => h d (List.mem_cons_of_mem c hd)]

/-!
## Strings
-/

/-- The text stands within a string, on one line, and does not end it. -/
structure Quoted (cs : List Char) : Prop where
  kept : compactFrom .string cs = cs
  after : Place.string.after cs = .string
  one_line : Not ('\n' ∈ cs)

namespace Quoted

theorem nil : Quoted [] :=
  ⟨rfl, rfl, List.not_mem_nil⟩

theorem append {first second : List Char} (hfirst : Quoted first)
    (hsecond : Quoted second) : Quoted (first ++ second) where
  kept := by rw [compactFrom_append, hfirst.kept, hfirst.after, hsecond.kept]
  after := by rw [Place.after_append, hfirst.after, hsecond.after]
  one_line := fun hmem =>
    (List.mem_append.mp hmem).elim hfirst.one_line hsecond.one_line

theorem cons {c : Char} {rest : List Char} (hquote : c ≠ '"')
    (hbackslash : c ≠ '\\') (hnewline : c ≠ '\n') (h : Quoted rest) :
    Quoted (c :: rest) where
  kept := by
    rw [compactFrom_cons_of_ne (by decide), Place.next_string hquote hbackslash,
      h.kept]
  after := by
    rw [Place.after_cons, Place.next_string hquote hbackslash, h.after]
  one_line := List.not_mem_cons_of_ne_of_not_mem hnewline.symm h.one_line

theorem escape {c : Char} {rest : List Char} (hnewline : c ≠ '\n')
    (h : Quoted rest) : Quoted ('\\' :: c :: rest) where
  kept := by
    have hopen : Place.next .string '\\' = .escape := rfl
    have hclose : Place.next .escape c = .string := rfl
    rw [compactFrom_cons_of_ne (by decide), hopen,
      compactFrom_cons_of_ne (by decide), hclose, h.kept]
  after := h.after
  one_line := List.not_mem_cons_of_ne_of_not_mem (by decide)
    (List.not_mem_cons_of_ne_of_not_mem hnewline.symm h.one_line)

end Quoted

def quote (inner : List Char) : List Char :=
  '"' :: (inner ++ ['"'])

theorem compact_quote {inner : List Char} (h : Quoted inner) :
    compact (quote inner) = quote inner := by
  unfold compact quote
  rw [compactFrom_cons rfl]
  show '"' :: compactFrom .string (inner ++ ['"']) = _
  rw [compactFrom_append, h.kept, h.after]
  rfl

theorem newline_not_mem_quote {inner : List Char} (h : Quoted inner) :
    Not ('\n' ∈ quote inner) := by
  unfold quote
  simp [h.one_line]

theorem complete_quote {inner : List Char} (h : Quoted inner) :
    Complete (quote inner) := by
  show Place.string.after (inner ++ ['"']) = .outside
  rw [Place.after_append, h.after]
  rfl

end Json
end Reshape
