import Reshape.Unicode.Utf8

/-!
# Bytes of characters

An ASCII character is written as its own byte, and every byte of any other
character is above all of these.  So a byte that looks like an ASCII character
is one, and it stands between two characters.
-/

namespace Reshape
namespace Unicode
namespace Utf8

theorem encode_cons (c : Char) (cs : List Char) :
    encode (c :: cs) = String.utf8EncodeChar c ++ encode cs :=
  List.flatMap_cons

theorem encode_append (xs ys : List Char) :
    encode (xs ++ ys) = encode xs ++ encode ys :=
  List.flatMap_append

theorem length_le_length_encode (cs : List Char) :
    cs.length ≤ (encode cs).length := by
  induction cs with
  | nil => exact Nat.le_refl 0
  | cons c rest ih =>
      have hpos := Char.utf8Size_pos c
      rw [encode_cons, List.length_append, String.length_utf8EncodeChar,
        List.length_cons]
      lia

/-!
## ASCII and the rest
-/

theorem utf8EncodeChar_of_ascii {c : Char} (h : c.toNat < 0x80) :
    String.utf8EncodeChar c = [c.toUInt8] := by
  apply String.utf8EncodeChar_eq_singleton
  rw [Char.utf8Size_eq_one_iff, UInt32.le_iff_toNat_le]
  exact Nat.le_of_lt_succ h

theorem encode_cons_of_ascii {c : Char} (h : c.toNat < 0x80) (cs : List Char) :
    encode (c :: cs) = c.toUInt8 :: encode cs := by
  rw [encode_cons, utf8EncodeChar_of_ascii h]
  rfl

theorem toNat_toUInt8_of_ascii {c : Char} (h : c.toNat < 0x80) :
    c.toUInt8.toNat = c.toNat := by
  show c.val.toNat % 2 ^ 8 = c.toNat
  exact Nat.mod_eq_of_lt (Nat.lt_trans h (by decide))

theorem eq_of_toUInt8_eq {c d : Char} (hc : c.toNat < 0x80)
    (hd : d.toNat < 0x80) (h : c.toUInt8 = d.toUInt8) : c = d := by
  have hnat := congrArg UInt8.toNat h
  rw [toNat_toUInt8_of_ascii hc, toNat_toUInt8_of_ascii hd] at hnat
  exact Char.toNat_inj.mp hnat

theorem toUInt8_ne {c d : Char} (hc : c.toNat < 0x80) (hd : d.toNat < 0x80)
    (h : c ≠ d) : c.toUInt8 ≠ d.toUInt8 := by
  intro heq
  exact h (eq_of_toUInt8_eq hc hd heq)

theorem ne_toUInt8_of_le {b : UInt8} (hb : 0x80 ≤ b.toNat) {d : Char}
    (hd : d.toNat < 0x80) : b ≠ d.toUInt8 := by
  intro heq
  rw [heq, toNat_toUInt8_of_ascii hd] at hb
  exact absurd hd (Nat.not_lt.mpr hb)

theorem le_toNat_ofNat {n k : Nat} (hk : 0x80 ≤ k) (h : n + k < 0x100) :
    0x80 ≤ (UInt8.ofNat (n + k)).toNat := by
  rw [UInt8.toNat_ofNat']
  lia

theorem le_of_mem_utf8EncodeChar {c : Char} (h : 0x80 ≤ c.toNat) {b : UInt8}
    (hb : b ∈ String.utf8EncodeChar c) : 0x80 ≤ b.toNat := by
  have hval : 0x80 ≤ c.val.toNat := h
  unfold String.utf8EncodeChar at hb
  simp only at hb
  split at hb
  · lia
  · split at hb
    · simp only [List.mem_cons, List.not_mem_nil, or_false] at hb
      rcases hb with rfl | rfl <;>
        exact le_toNat_ofNat (by decide) (by lia)
    · split at hb
      · simp only [List.mem_cons, List.not_mem_nil, or_false] at hb
        rcases hb with rfl | rfl | rfl <;>
          exact le_toNat_ofNat (by decide) (by lia)
      · simp only [List.mem_cons, List.not_mem_nil, or_false] at hb
        rcases hb with rfl | rfl | rfl | rfl <;>
          exact le_toNat_ofNat (by decide) (by lia)

/-!
## Between two characters
-/

theorem eq_of_mem_utf8EncodeChar {c d : Char} (hc : c.toNat < 0x80)
    (h : c.toUInt8 ∈ String.utf8EncodeChar d) : d = c := by
  by_cases hd : d.toNat < 0x80
  · rw [utf8EncodeChar_of_ascii hd, List.mem_singleton] at h
    exact eq_of_toUInt8_eq hd hc h.symm
  · have hwide := le_of_mem_utf8EncodeChar (Nat.le_of_not_lt hd) h
    rw [toNat_toUInt8_of_ascii hc] at hwide
    exact absurd hc (Nat.not_lt.mpr hwide)

/-- Where the byte of an ASCII character is found, the character stands. -/
theorem encode_eq_append_cons {cs : List Char} {c : Char} (hc : c.toNat < 0x80)
    {xs ys : List UInt8} (h : encode cs = xs ++ c.toUInt8 :: ys) :
    exists before after, cs = before ++ c :: after ∧ encode before = xs ∧
      encode after = ys := by
  induction cs generalizing xs with
  | nil =>
      cases xs <;> cases h
  | cons d rest ih =>
      have hlater : forall more, xs = String.utf8EncodeChar d ++ more ->
          encode rest = more ++ c.toUInt8 :: ys ->
          exists before after, d :: rest = before ++ c :: after ∧
            encode before = xs ∧
            encode after = ys := by
        intro more hxs hmore
        rcases ih hmore with ⟨before, after, hrest, hbefore, hafter⟩
        refine ⟨d :: before, after, ?_, ?_, hafter⟩
        · rw [hrest]
          rfl
        · rw [encode_cons, hbefore, hxs]
      rw [encode_cons] at h
      rcases List.append_eq_append_iff.mp h with
        ⟨more, hxs, hmore⟩ | ⟨more, hchar, hmore⟩
      · exact hlater more hxs hmore
      · cases more with
        | nil =>
            rw [List.append_nil] at hchar
            exact hlater [] (by rw [hchar, List.append_nil]) hmore.symm
        | cons b more =>
            injection hmore with hhead htail
            subst hhead
            have hmem : c.toUInt8 ∈ String.utf8EncodeChar d := by
              rw [hchar]
              exact List.mem_append_right xs List.mem_cons_self
            have heq := eq_of_mem_utf8EncodeChar hc hmem
            subst heq
            rw [utf8EncodeChar_of_ascii hc,
              List.singleton_eq_append_iff] at hchar
            rcases hchar with ⟨rfl, hone⟩ | ⟨_, hnone⟩
            · injection hone with _ hmore
              subst hmore
              exact ⟨[], rest, rfl, rfl, htail.symm⟩
            · cases hnone

end Utf8
end Unicode
end Reshape
