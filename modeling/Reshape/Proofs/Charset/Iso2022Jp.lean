import Reshape.Proofs.Charset.Ascii

/-!
# Seven-bit readings

All bytes of a text that is read as ISO-2022-JP without a fault look like ASCII.
They are ASCII exactly if no escape byte is among them: an escape sequence takes
three bytes and gives no character, so a text that has one is read as fewer
characters than it has bytes.
-/

namespace Reshape
namespace Charset

open Unicode

namespace Iso2022Jp

theorem escape?_eq_some {rest : List UInt8} {next : Mode}
    (h : escape? rest = some next) :
    exists a b more, rest = a :: b :: more ∧ isAscii a = true ∧
      isAscii b = true := by
  match rest with
  | [] => cases h
  | [_] => cases h
  | a :: b :: more =>
      refine ⟨a, b, more, rfl, ?_⟩
      simp only [escape?] at h
      split at h
      · rename_i ha
        rw [ha]
        split at h
        · rename_i hb
          rw [hb]
          exact ⟨rfl, rfl⟩
        · split at h
          · rename_i hb
            rw [hb]
            exact ⟨rfl, rfl⟩
          · split at h
            · rename_i hb
              rw [hb]
              exact ⟨rfl, rfl⟩
            · cases h
      · split at h
        · rename_i ha
          rw [ha]
          split at h
          · rename_i hb
            simp only [Bool.or_eq_true, decide_eq_true_eq] at hb
            rcases hb with rfl | rfl <;> exact ⟨rfl, rfl⟩
          · cases h
        · cases h

theorem isAscii_of_between {low high : Nat} {b : UInt8} (hhigh : high < 0x80)
    (h : between low high b = true) : isAscii b = true := by
  unfold between at h
  unfold isAscii
  simp only [Bool.and_eq_true, decide_eq_true_eq] at h ⊢
  lia

theorem isAscii_of_byteChar? {mode : Mode} {b : UInt8}
    (h : (byteChar? mode b).isSome = true) : isAscii b = true := by
  unfold byteChar? at h
  split at h
  · split at h
    · rename_i hbetween
      exact isAscii_of_between (by decide) hbetween
    · cases h
  · split at h
    · cases h
    · rename_i hplain
      simp only [Bool.or_eq_true, decide_eq_true_eq, Bool.not_eq_true', not_or,
        Bool.not_eq_false] at hplain
      exact hplain.right

theorem isAscii_of_pairChar? {lead trail : UInt8}
    (h : (pairChar? lead trail).isSome = true) : isAscii trail = true := by
  unfold pairChar? at h
  split at h
  · rename_i hbetween
    exact isAscii_of_between (by decide) hbetween
  · cases h

/-!
## Readings without a fault
-/

theorem isAscii_of_faultless {mode : Mode} {idle : Bool} {bytes : List UInt8}
    (h : Faultless (read mode idle bytes)) :
    forall b, b ∈ bytes -> isAscii b = true := by
  fun_induction read mode idle bytes with
  | case1 =>
      intro b hb
      cases hb
  | case2 mode idle rest next hescape ih =>
      rcases escape?_eq_some hescape with ⟨a, b, more, rfl, ha, hb⟩
      have hmore := ih (faultless_append.mp h).right
      simp only [List.forall_mem_cons]
      exact ⟨rfl, ha, hb, hmore⟩
  | case3 => exact absurd h (not_faultless_none _)
  | case4 => exact absurd h (not_faultless_none _)
  | case5 => exact absurd h (not_faultless_none _)
  | case6 idle b hplain hbetween trail rest htrail ih =>
      rcases faultless_cons.mp h with ⟨hpair, hrest⟩
      simp only [List.forall_mem_cons]
      exact ⟨isAscii_of_between (by decide) hbetween,
        isAscii_of_pairChar? hpair, ih hrest⟩
  | case7 => exact absurd h (not_faultless_none _)
  | case8 mode idle b rest hplain hmode ih =>
      rcases faultless_cons.mp h with ⟨hchar, hrest⟩
      exact List.forall_mem_cons.mpr ⟨isAscii_of_byteChar? hchar, ih hrest⟩

/-- There are no more characters than bytes, and fewer if an escape byte is
among them. -/
theorem length_read {mode : Mode} {idle : Bool} {bytes : List UInt8}
    (h : Faultless (read mode idle bytes)) :
    (read mode idle bytes).length ≤ bytes.length ∧
      (0x1B ∈ bytes -> (read mode idle bytes).length < bytes.length) := by
  fun_induction read mode idle bytes with
  | case1 =>
      refine ⟨Nat.le_refl _, ?_⟩
      intro hmem
      cases hmem
  | case2 mode idle rest next hescape ih =>
      rcases escape?_eq_some hescape with ⟨a, b, more, rfl, _, _⟩
      have hmore := (ih (faultless_append.mp h).right).left
      have hidle :
          (if idle = true then [(none : Option Char)] else []).length ≤ 1 := by
        cases idle <;> decide
      rw [List.length_append]
      simp only [List.drop_succ_cons, List.drop_zero,
        List.length_cons] at hmore ⊢
      constructor
      · lia
      · intro _
        lia
  | case3 => exact absurd h (not_faultless_none _)
  | case4 => exact absurd h (not_faultless_none _)
  | case5 => exact absurd h (not_faultless_none _)
  | case6 idle b hplain hbetween trail rest htrail ih =>
      have hrest := (ih (faultless_cons.mp h).right).left
      simp only [List.length_cons]
      constructor
      · lia
      · intro _
        lia
  | case7 => exact absurd h (not_faultless_none _)
  | case8 mode idle b rest hplain hmode ih =>
      rcases ih (faultless_cons.mp h).right with ⟨hrest, hescape⟩
      simp only [List.length_cons]
      constructor
      · lia
      · intro hmem
        rcases List.mem_cons.mp hmem with heq | hmem
        · exact absurd heq.symm hplain
        · have hshorter := hescape hmem
          lia

theorem byteChar?_ascii {b : UInt8} (h : (byteChar? .ascii b).isSome = true) :
    byteChar? .ascii b = some (byteChar b) := by
  unfold byteChar? at h ⊢
  simp only at h ⊢
  split at h
  · cases h
  · rename_i hplain
    rw [if_neg hplain]
    rfl

theorem read_ascii_cons {b : UInt8} (hb : b ≠ 0x1B) (idle : Bool)
    (rest : List UInt8) :
    read .ascii idle (b :: rest) =
      byteChar? .ascii b :: read .ascii false rest := by
  rw [read.eq_def]
  simp only [if_neg hb, reduceCtorEq, if_false]

theorem decode_of_plain {bytes : List UInt8} (hplain : 0x1B ∉ bytes)
    (h : Faultless (decode bytes)) :
    decode bytes = (bytes.map byteChar).map some := by
  unfold decode at h ⊢
  generalize false = idle at h ⊢
  induction bytes generalizing idle with
  | nil =>
      rw [read]
      rfl
  | cons b rest ih =>
      have hb : b ≠ 0x1B := fun heq => hplain (heq ▸ List.mem_cons_self)
      have hrest : 0x1B ∉ rest :=
        fun hmem => hplain (List.mem_cons_of_mem b hmem)
      rw [read_ascii_cons hb, faultless_cons] at h
      rw [read_ascii_cons hb, byteChar?_ascii h.left, ih hrest false h.right]
      rfl

end Iso2022Jp
end Charset
end Reshape
