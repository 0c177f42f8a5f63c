import Reshape.Json.Reader
import Reshape.Proofs.Json.Numerals

/-!
# Lists in JSON

If the reader of an item takes exactly the text of the item, whatever follows
it, then the reader of a list takes exactly the texts of its items with commas
between them, up to the closing character.  What is read for an item need not be
the item itself.
-/

namespace Reshape
namespace Json

/-- The reader takes exactly this text for the value, in front of anything that
does not go on with a numeral. -/
def Reads {α : Type} (read? : List Char -> Option (α × List Char))
    (cs : List Char) (a : α) : Prop :=
  forall rest, Stops rest -> read? (cs ++ rest) = some (a, rest)

def Begins (close : Char) (cs : List Char) : Prop :=
  exists c more, cs = c :: more ∧ isSpace c = false ∧ c ≠ close

def Closes (c : Char) : Prop :=
  c = ']' ∨ c = '\x7d'

theorem Closes.solid {close : Char} (h : Closes close) :
    isSpace close = false ∧ extendsNumeral close = false ∧ close ≠ '"' ∧
      close ≠ ',' := by
  rcases h with rfl | rfl <;> exact ⟨rfl, rfl, by decide, by decide⟩

theorem skipSpace_cons {c : Char} (h : isSpace c = false) (cs : List Char) :
    skipSpace (c :: cs) = c :: cs := by
  unfold skipSpace
  rw [List.dropWhile_cons, h]
  rfl

/-!
## Items
-/

section Items

variable {α β : Type} {read? : List Char -> Option (β × List Char)}
  {text : α -> List Char} {value : α -> β} {close : Char}

def listed (text : α -> List Char) (close : Char) : List α -> List Char
  | [] => [close]
  | a :: more => text a ++ (more.flatMap fun b => ',' :: text b) ++ [close]

theorem listed_cons_cons (a b : α) (more : List α) :
    listed text close (a :: b :: more) =
      text a ++ ',' :: listed text close (b :: more) := by
  simp only [listed, List.flatMap_cons, List.cons_append, List.append_assoc]

theorem exists_listed (text : α -> List Char) (close : Char) (items : List α) :
    exists inner, listed text close items = inner ++ [close] := by
  cases items with
  | nil => exact ⟨[], rfl⟩
  | cons a more => exact ⟨_, rfl⟩

theorem not_mem_listed {c : Char} {items : List α} (hclose : c ≠ close)
    (hcomma : c ≠ ',') (h : forall a, a ∈ items -> Not (c ∈ text a)) :
    Not (c ∈ listed text close items) := by
  cases items with
  | nil => exact fun hmem => hclose (List.mem_singleton.mp hmem)
  | cons a more =>
      intro hmem
      rcases List.mem_append.mp hmem with hitems | hlast
      · rcases List.mem_append.mp hitems with hfirst | hmore
        · exact h a List.mem_cons_self hfirst
        · rcases List.mem_flatMap.mp hmore with ⟨b, hb, htext⟩
          rcases List.mem_cons.mp htext with heq | htext
          · exact hcomma heq
          · exact h b (List.mem_cons_of_mem a hb) htext
      · exact hclose (List.mem_singleton.mp hlast)

theorem length_le_length_listed (text : α -> List Char) (close : Char)
    (items : List α) : items.length ≤ (listed text close items).length := by
  cases items with
  | nil => exact Nat.zero_le _
  | cons a more =>
      induction more generalizing a with
      | nil =>
          simp only [listed, List.length_append, List.length_cons,
            List.length_nil]
          lia
      | cons b more ih =>
          have hrest := ih b
          simp only [listed_cons_cons, List.length_append,
            List.length_cons] at hrest ⊢
          lia

theorem sequence?_of_read {cs left : List Char} {b : β} {c : Char}
    {rest : List Char} (h : read? cs = some (b, left))
    (hskip : skipSpace left = c :: rest) (fuel : Nat) :
    sequence? read? close (fuel + 1) cs =
      if c = ',' then
        (sequence? read? close fuel rest).map fun read => (b :: read.1, read.2)
      else if c = close then some ([b], rest)
      else none := by
  simp only [sequence?, h, Option.bind_eq_bind, Option.bind_some, hskip]
  by_cases hcomma : c = ','
  · rw [if_pos hcomma, if_pos hcomma]
    cases sequence? read? close fuel rest <;> rfl
  · rw [if_neg hcomma, if_neg hcomma]

theorem sequence?_of_reads (hclose : Closes close) {a : α} {more : List α}
    (hreads : forall b, b ∈ a :: more -> Reads read? (text b) (value b))
    (rest : List Char) {fuel : Nat} (hfuel : more.length < fuel) :
    sequence? read? close fuel (listed text close (a :: more) ++ rest) =
      some ((a :: more).map value, rest) := by
  induction more generalizing a fuel with
  | nil =>
      rcases hclose.solid with ⟨hspace, hstops, _, hcomma⟩
      have hread := hreads a List.mem_cons_self (close :: rest) hstops
      cases fuel with
      | zero => exact absurd hfuel (Nat.not_lt_zero _)
      | succ fuel =>
          have htext :
              listed text close [a] ++ rest = text a ++ close :: rest := by
            simp [listed]
          rw [htext, sequence?_of_read hread (skipSpace_cons hspace rest),
            if_neg hcomma, if_pos rfl]
          rfl
  | cons b more ih =>
      have hread :=
        hreads a List.mem_cons_self
          (',' :: (listed text close (b :: more) ++ rest)) rfl
      cases fuel with
      | zero => exact absurd hfuel (Nat.not_lt_zero _)
      | succ fuel =>
          have hmore := ih (fun c hc => hreads c (List.mem_cons_of_mem a hc))
            (Nat.lt_of_succ_lt_succ hfuel)
          rw [listed_cons_cons, List.append_assoc, List.cons_append,
            sequence?_of_read hread (skipSpace_cons rfl _), if_pos rfl, hmore]
          rfl

theorem items?_of_reads (hclose : Closes close) {items : List α}
    (hbegins : forall a, a ∈ items -> Begins close (text a))
    (hreads : forall a, a ∈ items -> Reads read? (text a) (value a))
    (rest : List Char) :
    items? read? close (listed text close items ++ rest) =
      some (items.map value, rest) := by
  cases items with
  | nil =>
      simp only [items?, listed, List.cons_append, List.nil_append,
        skipSpace_cons hclose.solid.left, if_true, List.map_nil]
  | cons a more =>
      rcases hbegins a List.mem_cons_self with ⟨c, begun, htext, hspace, hne⟩
      have hall : listed text close (a :: more) ++ rest =
          c ::
            (begun ++
              ((more.flatMap fun b => ',' :: text b) ++ close :: rest)) := by
        simp [listed, htext]
      have hfuel :
          more.length < (listed text close (a :: more) ++ rest).length := by
        have hlength := length_le_length_listed text close (a :: more)
        rw [List.length_append]
        exact Nat.lt_of_lt_of_le (Nat.lt_of_succ_le hlength)
          (Nat.le_add_right _ _)
      rw [items?, ← sequence?_of_reads hclose hreads rest hfuel, hall,
        skipSpace_cons hspace]
      exact if_neg hne

end Items

end Json
end Reshape
