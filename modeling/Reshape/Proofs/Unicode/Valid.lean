import Reshape.Proofs.Charset.Pieces
import Reshape.Proofs.Unicode.Utf8

/-!
# Writing back UTF-8

Bytes that are read as UTF-8 without a fault are the bytes that are written for
what was read.  The bounds that the reader puts on the second byte are just
those that the writer never leaves.
-/

namespace Reshape
namespace Unicode
namespace Utf8

/-!
## Taking bytes in
-/

theorem exists_byte {count low high acc used : Nat} {rest : List UInt8}
    (h : Faultless (continuation (count + 1) low high acc used rest).chars) :
    exists b more, rest = b :: more ∧ low ≤ b.toNat ∧ b.toNat ≤ high ∧
      continuation (count + 1) low high acc used rest =
        continuation count 0x80 0xBF (acc * 64 + b.toNat % 64) (used + 1)
          more := by
  cases rest with
  | nil => exact absurd h (not_faultless_none [])
  | cons b more =>
      unfold continuation at h
      split at h
      · rename_i hbyte
        refine ⟨b, more, rfl, hbyte.left, hbyte.right, ?_⟩
        rw [continuation, if_pos hbyte]
      · exact absurd h (not_faultless_none [])

theorem toNat_charOfNat {n : Nat}
    (h : n < 0xD800 ∨ (0xDFFF < n ∧ n < 0x110000)) :
    (Char.ofNat n).toNat = n := by
  have hvalid : n.isValidChar := h
  unfold Char.ofNat
  rw [dif_pos hvalid]
  rfl

theorem ofNat_eq_self {b : UInt8} {n : Nat} (h : n = b.toNat) :
    UInt8.ofNat n = b := by
  rw [h]
  exact UInt8.ofNat_toNat

/-!
## One character

The sums below are the numbers that the reader puts together, a few bits from
each byte.
-/

theorem utf8EncodeChar_of_two {b b₁ : UInt8} (hlow : 0xC2 ≤ b.toNat)
    (hhigh : b.toNat < 0xE0) (hlow₁ : 0x80 ≤ b₁.toNat)
    (hhigh₁ : b₁.toNat ≤ 0xBF) :
    String.utf8EncodeChar (Char.ofNat ((b.toNat - 0xC0) * 64 + b₁.toNat % 64)) =
      [b, b₁] := by
  have hn : (Char.ofNat ((b.toNat - 0xC0) * 64 + b₁.toNat % 64)).val.toNat =
      (b.toNat - 0xC0) * 64 + b₁.toNat % 64 :=
    toNat_charOfNat (by omega)
  unfold String.utf8EncodeChar
  simp only [hn]
  rw [if_neg (by omega), if_pos (by omega), ofNat_eq_self (b := b) (by omega),
    ofNat_eq_self (b := b₁) (by omega)]

theorem utf8EncodeChar_of_three {b b₁ b₂ : UInt8} {n : Nat}
    (hn : n = ((b.toNat - 0xE0) * 64 + b₁.toNat % 64) * 64 + b₂.toNat % 64)
    (hlow : 0xE0 ≤ b.toNat) (hhigh : b.toNat < 0xF0) (hlow₁ : 0x80 ≤ b₁.toNat)
    (hhigh₁ : b₁.toNat ≤ 0xBF) (hlow₂ : 0x80 ≤ b₂.toNat)
    (hhigh₂ : b₂.toNat ≤ 0xBF) (hleast : b.toNat = 0xE0 -> 0xA0 ≤ b₁.toNat)
    (hsurrogates : b.toNat = 0xED -> b₁.toNat ≤ 0x9F) :
    String.utf8EncodeChar (Char.ofNat n) = [b, b₁, b₂] := by
  have hvalue : (Char.ofNat n).val.toNat = n := toNat_charOfNat (by omega)
  unfold String.utf8EncodeChar
  simp only [hvalue]
  rw [if_neg (by omega), if_neg (by omega), if_pos (by omega),
    ofNat_eq_self (b := b) (by omega), ofNat_eq_self (b := b₁) (by omega),
    ofNat_eq_self (b := b₂) (by omega)]

theorem utf8EncodeChar_of_four {b b₁ b₂ b₃ : UInt8} {n : Nat}
    (hn : n =
      (((b.toNat - 0xF0) * 64 + b₁.toNat % 64) * 64 + b₂.toNat % 64) * 64 +
        b₃.toNat % 64)
    (hlow : 0xF0 ≤ b.toNat) (hhigh : b.toNat ≤ 0xF4) (hlow₁ : 0x80 ≤ b₁.toNat)
    (hhigh₁ : b₁.toNat ≤ 0xBF) (hlow₂ : 0x80 ≤ b₂.toNat)
    (hhigh₂ : b₂.toNat ≤ 0xBF) (hlow₃ : 0x80 ≤ b₃.toNat)
    (hhigh₃ : b₃.toNat ≤ 0xBF) (hleast : b.toNat = 0xF0 -> 0x90 ≤ b₁.toNat)
    (hgreatest : b.toNat = 0xF4 -> b₁.toNat ≤ 0x8F) :
    String.utf8EncodeChar (Char.ofNat n) = [b, b₁, b₂, b₃] := by
  have hvalue : (Char.ofNat n).val.toNat = n := toNat_charOfNat (by omega)
  unfold String.utf8EncodeChar
  simp only [hvalue]
  rw [if_neg (by omega), if_neg (by omega), if_neg (by omega),
    ofNat_eq_self (b := b) (by omega), ofNat_eq_self (b := b₁) (by omega),
    ofNat_eq_self (b := b₂) (by omega), ofNat_eq_self (b := b₃) (by omega)]

def WritesBack (b : UInt8) (rest : List UInt8) (piece : Piece) : Prop :=
  exists c, piece.chars = [some c] ∧
    String.utf8EncodeChar c = b :: rest.take piece.used

theorem writesBack_of_eq {b : UInt8} {rest : List UInt8} {c : Char} {used : Nat}
    (h : String.utf8EncodeChar c = b :: rest.take used) :
    WritesBack b rest ⟨[some c], used⟩ :=
  ⟨c, rfl, h⟩

theorem writesBack_one {b : UInt8} {low high acc : Nat} {rest : List UInt8}
    (hlow : 0xC2 ≤ b.toNat) (hhigh : b.toNat < 0xE0) (hlow' : 0x80 ≤ low)
    (hhigh' : high ≤ 0xBF) (hacc : acc = b.toNat - 0xC0)
    (h : Faultless (continuation 1 low high acc 0 rest).chars) :
    WritesBack b rest (continuation 1 low high acc 0 rest) := by
  rcases exists_byte h with ⟨b₁, more, rfl, hlow₁, hhigh₁, heq⟩
  rw [heq, continuation, hacc]
  apply writesBack_of_eq
  exact utf8EncodeChar_of_two hlow hhigh (by omega) (by omega)

theorem writesBack_two {b : UInt8} {low high acc : Nat} {rest : List UInt8}
    (hlow : 0xE0 ≤ b.toNat) (hhigh : b.toNat < 0xF0) (hlow' : 0x80 ≤ low)
    (hhigh' : high ≤ 0xBF) (hacc : acc = b.toNat - 0xE0)
    (hleast : b.toNat = 0xE0 -> 0xA0 ≤ low)
    (hsurrogates : b.toNat = 0xED -> high ≤ 0x9F)
    (h : Faultless (continuation 2 low high acc 0 rest).chars) :
    WritesBack b rest (continuation 2 low high acc 0 rest) := by
  rcases exists_byte h with ⟨b₁, more, rfl, hlow₁, hhigh₁, heq⟩
  rw [heq] at h ⊢
  rcases exists_byte h with ⟨b₂, more, rfl, hlow₂, hhigh₂, heq⟩
  rw [heq, continuation, hacc]
  apply writesBack_of_eq
  exact utf8EncodeChar_of_three rfl hlow hhigh (by omega) (by omega) hlow₂
    hhigh₂ (by omega)
    (by omega)

theorem writesBack_three {b : UInt8} {low high acc : Nat} {rest : List UInt8}
    (hlow : 0xF0 ≤ b.toNat) (hhigh : b.toNat ≤ 0xF4) (hlow' : 0x80 ≤ low)
    (hhigh' : high ≤ 0xBF) (hacc : acc = b.toNat - 0xF0)
    (hleast : b.toNat = 0xF0 -> 0x90 ≤ low)
    (hgreatest : b.toNat = 0xF4 -> high ≤ 0x8F)
    (h : Faultless (continuation 3 low high acc 0 rest).chars) :
    WritesBack b rest (continuation 3 low high acc 0 rest) := by
  rcases exists_byte h with ⟨b₁, more, rfl, hlow₁, hhigh₁, heq⟩
  rw [heq] at h ⊢
  rcases exists_byte h with ⟨b₂, more, rfl, hlow₂, hhigh₂, heq⟩
  rw [heq] at h ⊢
  rcases exists_byte h with ⟨b₃, more, rfl, hlow₃, hhigh₃, heq⟩
  rw [heq, continuation, hacc]
  apply writesBack_of_eq
  exact utf8EncodeChar_of_four rfl hlow hhigh (by omega) (by omega) hlow₂ hhigh₂
    hlow₃ hhigh₃
    (by omega) (by omega)

theorem writesBack_ascii {b : UInt8} (h : b.toNat < 0x80) (rest : List UInt8) :
    WritesBack b rest ⟨[some (Char.ofNat b.toNat)], 0⟩ := by
  have hvalue : (Char.ofNat b.toNat).toNat = b.toNat :=
    toNat_charOfNat (by omega)
  refine writesBack_of_eq ?_
  rw [utf8EncodeChar_of_ascii (by omega)]
  show [UInt8.ofNat (Char.ofNat b.toNat).toNat] = [b]
  rw [ofNat_eq_self hvalue]

theorem writesBack_fault {b : UInt8} {rest : List UInt8}
    (h : Faultless (Piece.mk [none] 0).chars) : WritesBack b rest ⟨[none], 0⟩ :=
  absurd h (not_faultless_none [])

theorem writesBack_ite {b : UInt8} {rest : List UInt8} {p : Prop} [Decidable p]
    {first second : Piece}
    (hfirst : p -> Faultless first.chars -> WritesBack b rest first)
    (hsecond : Not p -> Faultless second.chars -> WritesBack b rest second)
    (h : Faultless (if p then first else second).chars) :
    WritesBack b rest (if p then first else second) := by
  by_cases hp : p
  · rw [if_pos hp] at h ⊢
    exact hfirst hp h
  · rw [if_neg hp] at h ⊢
    exact hsecond hp h

theorem writesBack_piece {b : UInt8} {rest : List UInt8}
    (h : Faultless (piece b rest).chars) :
    WritesBack b rest (piece b rest) := by
  revert h
  unfold piece
  refine writesBack_ite (fun hascii _ => writesBack_ascii hascii rest)
    fun hascii => ?_
  refine writesBack_ite (fun _ => writesBack_fault) fun hstray => ?_
  refine writesBack_ite (fun htwo => ?_) fun htwo => ?_
  · exact writesBack_one (by omega) htwo (by omega) (by omega) rfl
  -- Three bytes: the least and the surrogates have bounds of their own.
  refine writesBack_ite (fun hleast => ?_) fun hleast => ?_
  · exact writesBack_two (by omega) (by omega) (by omega) (by omega) (by omega)
      (by omega) (by omega)
  refine writesBack_ite (fun hsurrogates => ?_) fun hsurrogates => ?_
  · exact writesBack_two (by omega) (by omega) (by omega) (by omega) (by omega)
      (by omega) (by omega)
  refine writesBack_ite (fun hthree => ?_) fun hthree => ?_
  · exact writesBack_two (by omega) hthree (by omega) (by omega) rfl (by omega)
      (by omega)
  -- Four bytes: the least and the greatest have.
  refine writesBack_ite (fun hleast => ?_) fun hleast => ?_
  · exact writesBack_three (by omega) (by omega) (by omega) (by omega)
      (by omega) (by omega)
      (by omega)
  refine writesBack_ite (fun hfour => ?_) fun hfour => ?_
  · exact writesBack_three (by omega) (by omega) (by omega) (by omega) rfl
      (by omega) (by omega)
  refine writesBack_ite (fun hgreatest => ?_) fun _ => writesBack_fault
  exact writesBack_three (by omega) (by omega) (by omega) (by omega) (by omega)
    (by omega)
    (by omega)

/-!
## All bytes
-/

theorem encode_lossy_decode {bytes : List UInt8}
    (h : Faultless (decode bytes)) : encode (lossy (decode bytes)) = bytes := by
  induction hlength : bytes.length using Nat.strongRecOn generalizing bytes with
  | ind n ih =>
      cases bytes with
      | nil =>
          unfold decode
          rw [readPieces_nil]
          rfl
      | cons b rest =>
          unfold decode at h ⊢
          rw [readPieces, faultless_append] at h
          rcases writesBack_piece h.left with ⟨c, hchars, hwritten⟩
          rw [List.length_cons] at hlength
          have hshorter : (rest.drop (piece b rest).used).length < n := by
            rw [List.length_drop]
            lia
          have hrest :
              encode
                  (lossy (readPieces piece (rest.drop (piece b rest).used))) =
                rest.drop (piece b rest).used :=
            ih _ hshorter h.right rfl
          rw [readPieces, hchars]
          show encode
                (c ::
                  lossy (readPieces piece (rest.drop (piece b rest).used))) =
              b :: rest
          rw [encode_cons, hwritten, hrest, List.cons_append,
            List.take_append_drop]

end Utf8
end Unicode
end Reshape
