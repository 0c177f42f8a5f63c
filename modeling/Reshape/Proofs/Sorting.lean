/-!
# Sorting by a number

A stable sort by a number leaves the items that share a number in the order in
which they came.  So a list that is sorted already is what any list sorts into
that has the same items under each number, in the same order.
-/

namespace Reshape

variable {α : Type}

/-- The items by ascending keys.  Those that share a key stay in the order in
which they came. -/
def sortBy (key : α -> Nat) (items : List α) : List α :=
  items.mergeSort fun a b => decide (key a ≤ key b)

def SortedBy (key : α -> Nat) (items : List α) : Prop :=
  items.Pairwise fun a b => key a ≤ key b

section Keys

variable (key : α -> Nat)

theorem decide_le_trans (a b c : α) (hab : decide (key a ≤ key b) = true)
    (hbc : decide (key b ≤ key c) = true) : decide (key a ≤ key c) = true :=
  decide_eq_true (Nat.le_trans (of_decide_eq_true hab) (of_decide_eq_true hbc))

theorem decide_le_total (a b : α) :
    (decide (key a ≤ key b) || decide (key b ≤ key a)) = true := by
  rw [Bool.or_eq_true, decide_eq_true_eq, decide_eq_true_eq]
  exact Nat.le_total (key a) (key b)

theorem sortedBy_sortBy (items : List α) : SortedBy key (sortBy key items) := by
  have hsorted :=
    List.pairwise_mergeSort (decide_le_trans key) (decide_le_total key) items
  apply hsorted.imp
  intro a b hle
  exact of_decide_eq_true hle

theorem mem_sortBy {items : List α} {a : α} :
    a ∈ sortBy key items <-> a ∈ items :=
  List.mem_mergeSort

theorem filter_sortBy (k : Nat) (items : List α) :
    (sortBy key items).filter (fun a => key a = k) =
      items.filter fun a => key a = k := by
  have hperm : (sortBy key items).Perm items := List.mergeSort_perm items _
  -- The items with one key are in order as they stand, so the sort does not
  -- move them.
  have hordered : (items.filter fun a => key a = k).Pairwise
      fun a b => decide (key a ≤ key b) = true := by
    apply List.pairwise_of_forall_mem_list
    intro a ha b hb
    have hkey : key a = k := of_decide_eq_true (List.mem_filter.mp ha).right
    have hkey' : key b = k := of_decide_eq_true (List.mem_filter.mp hb).right
    rw [hkey, hkey']
    exact decide_eq_true (Nat.le_refl k)
  have hkept :
      List.Sublist (items.filter fun a => key a = k) (sortBy key items) :=
    List.sublist_mergeSort (decide_le_trans key) (decide_le_total key) hordered
      List.filter_sublist
  have hsub := hkept.filter fun a => decide (key a = k)
  rw [List.filter_filter] at hsub
  simp only [Bool.and_self] at hsub
  have hlength : (items.filter fun a => key a = k).length =
      ((sortBy key items).filter fun a => key a = k).length :=
    ((hperm.filter _).length_eq).symm
  exact (hsub.eq_of_length hlength).symm

end Keys

variable {key : α -> Nat}

theorem filter_eq_nil_of_sorted {first : α} {rest : List α}
    (h : SortedBy key (first :: rest)) {k : Nat} (hk : k < key first) :
    (first :: rest).filter (fun a => key a = k) = [] := by
  rw [List.filter_eq_nil_iff]
  intro a ha heq
  have hkey : key a = k := of_decide_eq_true heq
  have hle : key first ≤ key a := by
    rcases List.mem_cons.mp ha with rfl | hrest
    · exact Nat.le_refl _
    · exact (List.pairwise_cons.mp h).left a hrest
  lia

theorem eq_of_filter_eq {xs ys : List α} (hxs : SortedBy key xs)
    (hys : SortedBy key ys)
    (h :
      forall k, xs.filter (fun a => key a = k) = ys.filter fun a => key a = k) :
    xs = ys := by
  induction xs generalizing ys with
  | nil =>
      cases ys with
      | nil => rfl
      | cons y ys =>
          have hy := h (key y)
          simp at hy
  | cons x xs ih =>
      cases ys with
      | nil =>
          have hx := h (key x)
          simp at hx
      | cons y ys =>
          have hkeys : key x = key y := by
            rcases Nat.lt_trichotomy (key x) (key y) with hlt | heq | hlt
            · have hx := h (key x)
              rw [filter_eq_nil_of_sorted hys hlt] at hx
              simp at hx
            · exact heq
            · have hy := h (key y)
              rw [filter_eq_nil_of_sorted hxs hlt] at hy
              simp at hy
          have hfirst : x = y := by
            have hx := h (key x)
            rw [List.filter_cons_of_pos (by simp),
              List.filter_cons_of_pos (by simp [hkeys])] at hx
            injection hx
          subst hfirst
          congr 1
          apply ih (List.pairwise_cons.mp hxs).right
            (List.pairwise_cons.mp hys).right
          intro k
          have hk := h k
          by_cases heq : key x = k
          · rw [List.filter_cons_of_pos (by simp [heq]),
              List.filter_cons_of_pos (by simp [heq])] at hk
            injection hk
          · rw [List.filter_cons_of_neg (by simp [heq]),
              List.filter_cons_of_neg (by simp [heq])] at hk
            exact hk

theorem sortBy_eq_of_filter_eq {items sorted : List α}
    (hsorted : SortedBy key sorted)
    (h :
      forall k,
        items.filter (fun a => key a = k) = sorted.filter fun a => key a = k) :
    sortBy key items = sorted := by
  apply eq_of_filter_eq (sortedBy_sortBy key items) hsorted
  intro k
  rw [filter_sortBy, h k]

end Reshape
